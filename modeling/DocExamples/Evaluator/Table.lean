import DocExamples.Evaluator
import DocExamples.Value.Shown

/-!
An evaluator that answers from a table and keeps a log of its calls.
-/

namespace DocExamples

/-- What the table says about a source. -/
inductive TableAnswer where
  /-- The source has this value, and its last expression may be given. -/
  | value (v : Value) (last : Option String)
  | raise (e : Raised)
  /-- The source does not parse; the line of the fault is counted from the source's own line. -/
  | malformed (message : String) (cause : Option ExceptionClass) (offset : Option Int)
deriving Repr

/-- A call of an evaluator. -/
inductive Call where
  | evaluate (source : String) (line : Int)
  | render
  | lastExpression (source : String)
deriving DecidableEq, Repr

namespace TableEvaluator

/-- The last answer that a table gives for a source. -/
def find? (table : List (String × TableAnswer)) (source : String) : Option TableAnswer :=
  (table.reverse.find? (·.1 = source)).map (·.2)

/-- Add a call to the log. -/
def log (c : Call) : Eval (List Call) Thrown Unit := modify (· ++ [c])

/-- The evaluator of a table, whose values hold objects of the heap; the value of a source that is
not in the table is its text. -/
def ofTable (heap : Heap) (table : List (String × TableAnswer)) : Evaluator (List Call) where
  heap _ := heap
  evaluate source line := do
    log (.evaluate source line)
    match find? table source with
    | none => return .str source
    | some (.value v _) => return v
    | some (.raise e) => throw (.raised e)
    | some (.malformed message cause offset) =>
      throw (.ofNotice cause (Notice.write {} (offset.map (line + ·)) message))
  render v := do
    log .render
    match v.shown heap with
    | .ok text => return text
    | .error e => throw (.raised e)
  lastExpression source := do
    log (.lastExpression source)
    match find? table source with
    | some (.value _ (some last)) => return last
    | _ => return source

end TableEvaluator

end DocExamples
