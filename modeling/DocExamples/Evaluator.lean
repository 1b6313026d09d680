import DocExamples.Place
import DocExamples.Value

/-!
Evaluators: what runs the source of examples.

An evaluator has a state that every call may change.  It evaluates a source, shows a value and
finds the last expression of a source; each of these may be cut short by something thrown.
-/

namespace DocExamples

/-- A source that does not parse. -/
structure Malformed extends Notice where
  /-- The class of the error that the reader of the source found. -/
  cause : Option ExceptionClass
deriving DecidableEq, Repr

/-- Why an evaluation never comes to an end. -/
inductive Halt where
  /-- The source runs for ever. -/
  | endless
  /-- The process ends with an exit code. -/
  | exit (code : Int)
deriving DecidableEq, Repr

/-- What can cut a call of an evaluator short. -/
inductive Thrown where
  | malformed (m : Malformed)
  | raised (e : Raised)
  | halted (h : Halt)
deriving DecidableEq, Repr

/-- What is thrown for a source that does not parse: the notice of it, or the exception that writing
the notice raises. -/
def Thrown.ofNotice (cause : Option ExceptionClass) : Except Raised Notice → Thrown
  | .ok notice => .malformed ⟨notice, cause⟩
  | .error e => .raised e

/-- A computation on the state of an evaluator. -/
abbrev Eval (σ ε α : Type) := ExceptT ε (StateM σ) α

/-- What runs the source of examples. -/
structure Evaluator (σ : Type) where
  /-- What the objects of values hold. -/
  heap (state : σ) : Heap
  /-- The value of a source whose first line has the given number. -/
  evaluate (source : String) (line : Int) : Eval σ Thrown Value
  /-- The form in which documentation shows a value. -/
  render (v : Value) : Eval σ Thrown String
  /-- The text of the last expression of a source. -/
  lastExpression (source : String) : Eval σ Thrown String

end DocExamples
