import DocExamples.Script.Syntax
import DocExamples.Text.Quoted

/-!
Writing scripts.

Expressions are written with one space around operators and behind commas and colons.  Parentheses
stand around tuples, and around a part that binds more weakly than its place asks for.  The operands
of `and` or `or` ask for more with each one.
-/

namespace DocExamples.Script

/-- A part between parentheses if it needs them. -/
def parenthesized (needed : Bool) (s : String) : String := if needed then "(" ++ s ++ ")" else s

/-- Items between brackets, with commas between them. -/
def enclosed (opening closing : String) (items : List String) : String :=
  opening ++ String.intercalate ", " items ++ closing

/-- Items of a tuple without its parentheses; a single one is followed by a comma. -/
def tupleItems : List String → String
  | [item] => item ++ ","
  | items => String.intercalate ", " items

mutual

/-- An expression in a place that asks for a strength. -/
def Expr.write (place : Nat) : Expr → String
  | .none => "None"
  | .bool b => if b then "True" else "False"
  | .int n => toString n
  | .str s => Text.quoted s
  | .name s => s
  | .list items => enclosed "[" "]" (Expr.writeAll items)
  | .tuple items => "(" ++ tupleItems (Expr.writeAll items) ++ ")"
  | .dict entries => enclosed "\x7b" "\x7d" (Expr.writeEntries entries)
  | .unary op e => parenthesized (op.strength < place) (op.text ++ e.write op.strength)
  | .binary op left right =>
    parenthesized (op.strength < place)
      (left.write op.strength ++ " " ++ op.text ++ " " ++ right.write (Strength.next op.strength))
  | .compare first rest =>
    parenthesized (Strength.comparison < place)
      (first.write (Strength.next Strength.comparison) ++ Expr.writeChain rest)
  | .logic op operands =>
    parenthesized (op.strength < place)
      (String.intercalate (" " ++ op.text ++ " ") (Expr.writeRising op.strength operands))
  | .index e position =>
    e.write Strength.atom ++ "[" ++
      (match position with
        | .tuple (item :: items) => tupleItems (Expr.writeAll (item :: items))
        | position => position.write Strength.test) ++ "]"
  | .call f arguments => f.write Strength.atom ++ enclosed "(" ")" (Expr.writeAll arguments)

/-- Expressions that stand on their own between commas. -/
def Expr.writeAll : List Expr → List String
  | [] => []
  | e :: rest => e.write Strength.test :: Expr.writeAll rest

/-- The entries of a dictionary. -/
def Expr.writeEntries : List (Expr × Expr) → List String
  | [] => []
  | (k, v) :: rest =>
    (k.write Strength.test ++ ": " ++ v.write Strength.test) :: Expr.writeEntries rest

/-- The comparisons behind the first operand of a chain. -/
def Expr.writeChain : List (CompareOp × Expr) → String
  | [] => ""
  | (op, e) :: rest =>
    " " ++ op.text ++ " " ++ e.write (Strength.next Strength.comparison) ++ Expr.writeChain rest

/-- Operands of which each one asks for more than the one before. -/
def Expr.writeRising (place : Nat) : List Expr → List String
  | [] => []
  | e :: rest => e.write (Strength.next place) :: Expr.writeRising (Strength.next place) rest

end

/-- A statement. -/
def Stmt.write : Stmt → String
  | .expr e => e.write Strength.statement
  | .assign targets e =>
    String.intercalate "" (targets.map (· ++ " = ")) ++ e.write Strength.test
  | .update target op e => target ++ " " ++ op.text ++ "= " ++ e.write Strength.test
  | .pass => "pass"
  | .raise none => "raise"
  | .raise (some e) => "raise " ++ e.write Strength.test
  | .forever => "while True:\n    pass"
  | .importSystem => "import os"
  | .exit code => "os._exit(" ++ toString code ++ ")"

end DocExamples.Script
