import DocExamples.Evaluator
import DocExamples.Script.Builtins
import DocExamples.Script.Syntax

/-!
Running scripts.

Expressions are evaluated from left to right; they make new objects and change none.  Statements
change the names that are bound.  Adding to a list that a name is bound to changes the list itself,
and with it all values that hold it.  A name that is not bound may be that of a built-in function,
type or exception; code keeps the built-in names that it started with.  The value of a script is
that of its last statement, if that is an expression or binds a single name.
-/

namespace DocExamples.Script

/-- The names that are bound, and their values. -/
abbrev Names := List (String × Value)

/-- What a script works on. -/
structure Store where
  names : Names := []
  heap : Heap := {}
deriving Repr

/-! ### Names -/

/-- The names with one of them bound to a value. -/
def bind (name : String) (v : Value) : Names → Names
  | [] => [(name, v)]
  | (n, w) :: rest => if n = name then (n, v) :: rest else (n, w) :: bind name v rest

/-- The names with some of them bound to a value. -/
def Names.bindAll (targets : List String) (v : Value) (names : Names) : Names :=
  targets.foldl (fun names t => bind t v names) names

/-- The value that a name is bound to. -/
def Names.get? (names : Names) (name : String) : Option Value :=
  (names.find? (·.1 = name)).map (·.2)

/-- The value that a name was bound to. -/
def Names.item (names : Names) (name : String) : Except Raised Value :=
  match names.get? name with
  | some v => .ok v
  | none => .error (.builtin "KeyError" (Text.quoted name))

/-- The name that a value in the place of the built-in names is bound to. -/
def builtinsName : String := "__builtins__"

/-- The built-in names of code that starts to run. -/
def Names.builtins (names : Names) : Builtins :=
  match names.get? builtinsName with
  | some v => .replaced v
  | none => .standard

/-- What names stand for in running code: what they are bound to by now, or else what was built in
when the code started. -/
structure Scope where
  names : Names
  builtins : Builtins

/-- The value of a name. -/
def Scope.value (h : Heap) (scope : Scope) (name : String) : Except Raised Value :=
  if name = debugName then .ok (.bool true)
  else
    match scope.names.get? name with
    | some v => .ok v
    | none => scope.builtins.value h name (undefinedName name)

/-! ### Expressions -/

mutual

/-- The value of an expression. -/
def Expr.eval (scope : Scope) : Expr → Work Value
  | .none => return .none
  | .bool b => return .bool b
  | .int n => return .int n
  | .str s => return .str s
  | .name s => Work.read (scope.value · s)
  | .list items => do Work.allocate (.list (← Expr.evalAll scope items))
  | .tuple items => do Work.allocate (.tuple (← Expr.evalAll scope items))
  | .dict entries => do
    let entries ← Expr.evalEntries scope entries
    Work.allocate (← Work.read (Value.entriesOf · entries))
  | .unary op e => do
    let v ← e.eval scope
    Work.read (Value.unary · op v)
  | .binary op left right => do
    let v ← left.eval scope
    let w ← right.eval scope
    Value.binary op op.text v w
  | .compare first rest => do Expr.evalChain scope (← first.eval scope) rest
  | .logic op operands => Expr.evalLogic scope op operands
  | .index e position => do
    let v ← e.eval scope
    let p ← position.eval scope
    Work.read (Value.index · v p)
  | .call f arguments => do
    let v ← f.eval scope
    let args ← Expr.evalAll scope arguments
    apply v args

/-- The values of expressions. -/
def Expr.evalAll (scope : Scope) : List Expr → Work (List Value)
  | [] => return []
  | e :: rest => do
    let v ← e.eval scope
    return v :: (← Expr.evalAll scope rest)

/-- The values of the entries of a dictionary. -/
def Expr.evalEntries (scope : Scope) : List (Expr × Expr) → Work (List (Value × Value))
  | [] => return []
  | (k, e) :: rest => do
    let key ← k.eval scope
    let v ← e.eval scope
    return (key, v) :: (← Expr.evalEntries scope rest)

/-- The value of a chain of comparisons behind a first operand; the first one that is false
decides. -/
def Expr.evalChain (scope : Scope) (v : Value) : List (CompareOp × Expr) → Work Value
  | [] => return v
  | (op, e) :: rest => do
    let w ← e.eval scope
    let b ← Work.read (Value.compared · op v w)
    if rest.isEmpty ∨ !b then return .bool b else Expr.evalChain scope w rest

/-- The value of operands in a row: that of the first one that decides, or of the last one. -/
def Expr.evalLogic (scope : Scope) (op : LogicOp) : List Expr → Work Value
  | [] => return .none
  | e :: rest => do
    let v ← e.eval scope
    if rest.isEmpty ∨ v.truth (← get) = (op = .or) then return v
    else Expr.evalLogic scope op rest

end

/-! ### Statements -/

/-- Work on the heap of a store. -/
def lift {α : Type} (work : Work α) : Eval Store Thrown α := ExceptT.mk do
  let s ← get
  let (result, heap) := work.run.run s.heap
  set { s with heap := heap }
  return result.mapError .raised

/-- An outcome that does not depend on the heap. -/
def settled {α : Type} (result : Except Raised α) : Eval Store Thrown α :=
  lift (Work.read fun _ => result)

section Statements

variable (b : Builtins)

/-- The value of an expression, with the names that are bound. -/
def evaluated (e : Expr) : Eval Store Thrown Value := do lift (e.eval ⟨(← get).names, b⟩)

/-- The value of a name, with the names that are bound. -/
def valueOf (name : String) : Eval Store Thrown Value := evaluated b (.name name)

/-- Bind names to a value. -/
def bindNames (targets : List String) (v : Value) : Eval Store Thrown Unit :=
  modify fun s => { s with names := s.names.bindAll targets v }

/-- The complaint about an exception that is none. -/
def notRaisable : Raised := .builtin "TypeError" "exceptions must derive from BaseException"

/-- The exception that the expression behind `raise` gives. -/
def exceptionOf (scope : Scope) (e : Expr) : Work Raised := do
  let (head, arguments) :=
    match e with
    | .call f arguments => (f, arguments)
    | e => (e, [])
  match ← head.eval scope with
  | .type name =>
    let args ← Expr.evalAll scope arguments
    if ExceptionClass.builtinNames.contains name then
      Work.read (Raised.ofArguments · (.builtin name) args)
    else
      let _ ← apply (.type name) args
      return notRaisable
  | _ => do
    let _ ← e.eval scope
    return notRaisable

/-- Raise what the expression behind `raise` gives. -/
def raising (e : Option Expr) : Eval Store Thrown Unit := do
  match e with
  | none => throw (.raised (.builtin "RuntimeError" "No active exception to reraise"))
  | some e => do throw (.raised (← lift (exceptionOf ⟨(← get).names, b⟩ e)))

/-- A list that a name is bound to holds these items from now on. -/
def replaceItems (target : String) (number : Nat) (items : List Value) :
    Eval Store Thrown Unit := do
  modify fun s => { s with heap := s.heap.write number (.list items) }
  bindNames [target] (.object number)

/-- Change the value that a name is bound to by an operator.  Adding to a list and repeating it
changes the list itself. -/
def change (target : String) (op : BinaryOp) (v w : Value) : Eval Store Thrown Unit := do
  match op, v, (← get).heap.contents? v, w.int? with
  | .add, .object n, some (.list items), _ => do
    replaceItems target n (items ++ (← lift (Work.read (Value.items · w))))
  | .mul, .object n, some (.list items), some count => do
    let times ← settled (Value.repetitions Value.mostItems items.length count)
    replaceItems target n (Value.repeatItems items times)
  | _, _, _, _ => do bindNames [target] (← lift (Value.binary op (op.text ++ "=") v w))

/-- The complaint about built-in names that nothing can be imported by. -/
def missingImporter : Raised := .builtin "ImportError" "__import__ not found"

/-- The module of the operating system.  What a script has put in the place of the importer is
called with the name of the module and four more arguments. -/
def importedSystem : Work Value := do
  match b with
  | .standard => return .foreign 0 "<module 'os'>"
  | .replaced _ =>
    let importer ← Work.read (b.value · "__import__" missingImporter)
    apply importer [.str "os", .none, .none, .none, .int 0]

/-- Run a statement. -/
def Stmt.run : Stmt → Eval Store Thrown Unit
  | .expr e => do
    let _ ← evaluated b e
  | .assign targets e => do bindNames targets (← evaluated b e)
  | .update target op e => do
    let v ← valueOf b target
    let w ← evaluated b e
    change target op v w
  | .pass => return ()
  | .raise e => raising b e
  | .forever => throw (.halted .endless)
  | .importSystem => do bindNames ["os"] (← lift (importedSystem b))
  | .exit code => do
    let _ ← valueOf b "os"
    throw (.halted (.exit code))

/-- The value of an expression as the last statement of a script. -/
def Stmt.value : Stmt → Eval Store Thrown Value
  | .expr e => evaluated b e
  | s => do
    s.run b
    return .none

/-- Run statements one after the other. -/
def runAll : List Stmt → Eval Store Thrown Unit
  | [] => return ()
  | s :: rest => do
    s.run b
    runAll rest

end Statements

/-- What a statement that is no expression leaves as the value of a script: the value of the name
that it has bound, if it binds a single one. -/
def Stmt.result : Stmt → Eval Store Thrown Value
  | .assign [target] _ => do settled ((← get).names.item target)
  | _ => return .none

end DocExamples.Script
