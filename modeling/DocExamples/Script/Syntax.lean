/-!
The syntax of scripts.

A script is a list of simple statements; expressions have values of a small dynamic language.
-/

namespace DocExamples.Script

/-- Operators in front of an operand. -/
inductive UnaryOp where
  | minus | plus | not
deriving DecidableEq, Repr

/-- Operators between two operands. -/
inductive BinaryOp where
  | add | sub | mul | div | floorDiv | mod
deriving DecidableEq, Repr

/-- Comparisons. -/
inductive CompareOp where
  | eq | ne | lt | le | gt | ge
deriving DecidableEq, Repr

/-- Operators that evaluate operands only as far as needed. -/
inductive LogicOp where
  | and | or
deriving DecidableEq, Repr

/-- An expression. -/
inductive Expr where
  | none
  | bool (b : Bool)
  | int (n : Nat)
  | str (s : String)
  | name (s : String)
  | list (items : List Expr)
  | tuple (items : List Expr)
  | dict (entries : List (Expr × Expr))
  | unary (op : UnaryOp) (e : Expr)
  | binary (op : BinaryOp) (left right : Expr)
  /-- A chain of comparisons. -/
  | compare (first : Expr) (rest : List (CompareOp × Expr))
  /-- Operands of one operator in a row. -/
  | logic (op : LogicOp) (operands : List Expr)
  | index (e position : Expr)
  | call (f : Expr) (arguments : List Expr)
deriving Repr, Inhabited

/-- A statement. -/
inductive Stmt where
  | expr (e : Expr)
  /-- The value is bound to each name, from the left. -/
  | assign (targets : List String) (e : Expr)
  /-- The name is bound to its value changed by the operator. -/
  | update (target : String) (op : BinaryOp) (e : Expr)
  | pass
  | raise (e : Option Expr)
  /-- A loop that never ends. -/
  | forever
  /-- The module of the operating system is bound to its name. -/
  | importSystem
  /-- The process ends at once. -/
  | exit (code : Int)
deriving Repr, Inhabited

/-- The statement is an expression. -/
def Stmt.isExpression : Stmt → Bool
  | .expr _ | .exit _ => true
  | _ => false

/-- The name that stands for true wherever it is read, and cannot be bound. -/
def debugName : String := "__debug__"

/-- The names that the statement binds. -/
def Stmt.targets : Stmt → List String
  | .assign targets _ => targets
  | .update target _ _ => [target]
  | .importSystem => ["os"]
  | _ => []

namespace BinaryOp

/-- How the operator is written. -/
def text : BinaryOp → String
  | .add => "+"
  | .sub => "-"
  | .mul => "*"
  | .div => "/"
  | .floorDiv => "//"
  | .mod => "%"

/-- The operator that is written so. -/
def ofText? : String → Option BinaryOp
  | "+" => some .add
  | "-" => some .sub
  | "*" => some .mul
  | "/" => some .div
  | "//" => some .floorDiv
  | "%" => some .mod
  | _ => Option.none

/-- The operator of a statement that changes a name by it, and is written so. -/
def ofUpdate? : String → Option BinaryOp
  | "+=" => some .add
  | "-=" => some .sub
  | "*=" => some .mul
  | "/=" => some .div
  | "//=" => some .floorDiv
  | "%=" => some .mod
  | _ => Option.none

end BinaryOp

namespace CompareOp

/-- How the comparison is written. -/
def text : CompareOp → String
  | .eq => "=="
  | .ne => "!="
  | .lt => "<"
  | .le => "<="
  | .gt => ">"
  | .ge => ">="

/-- The comparison that is written so. -/
def ofText? : String → Option CompareOp
  | "==" => some .eq
  | "!=" => some .ne
  | "<" => some .lt
  | "<=" => some .le
  | ">" => some .gt
  | ">=" => some .ge
  | _ => Option.none

end CompareOp

/-- How the operator is written. -/
def LogicOp.text : LogicOp → String
  | .and => "and"
  | .or => "or"

/-- How the operator is written, with the space that a word needs. -/
def UnaryOp.text : UnaryOp → String
  | .minus => "-"
  | .plus => "+"
  | .not => "not "

/-! ### Binding strength

How strongly the parts of an expression bind, as places in an order.  The places left out belong to
operators that scripts do not have. -/

namespace Strength

def tuple : Nat := 0
def statement : Nat := 1
def test : Nat := 2
def disjunction : Nat := 3
def conjunction : Nat := 4
def negation : Nat := 5
def comparison : Nat := 6
def arithmetic : Nat := 11
def term : Nat := 12
def factor : Nat := 13
def atom : Nat := 16

/-- The next stronger place. -/
def next (s : Nat) : Nat := min (s + 1) atom

end Strength

/-- How strongly the operator binds. -/
def BinaryOp.strength : BinaryOp → Nat
  | .add | .sub => Strength.arithmetic
  | .mul | .div | .floorDiv | .mod => Strength.term

/-- How strongly the operator binds. -/
def UnaryOp.strength : UnaryOp → Nat
  | .minus | .plus => Strength.factor
  | .not => Strength.negation

/-- How strongly the operator binds. -/
def LogicOp.strength : LogicOp → Nat
  | .and => Strength.conjunction
  | .or => Strength.disjunction

end DocExamples.Script
