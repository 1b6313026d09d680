import DocExamples.Evaluator
import DocExamples.Text.Lines
import DocExamples.Value.Shown

/-!
Failures of examples.

A failure carries what the documentation promised and what was found, and a report for the reader.
The report shows both values, so a failure can be built only if both can be shown.
-/

namespace DocExamples

/-- An example that did not keep its promise. -/
structure Failure where
  message : String
  /-- The example as documented. -/
  display : Option String
  /-- The comparison that failed. -/
  code : Option String
  /-- The value found. -/
  left : Value
  /-- The value promised. -/
  right : Value
  /-- What the objects of both values hold. -/
  heap : Heap
  line : Option Int
  /-- What the reader is told. -/
  report : String
deriving Repr

namespace Failure

/-- The lines of a text, each one that is not empty two spaces deeper. -/
def indent (s : String) : String :=
  let lines := (Text.splitAt '\n' s.toList).map fun cs =>
    if cs.isEmpty then "" else "  " ++ .ofList cs
  Text.joinLines lines

/-- The lines that show the two values of a failure; none if neither value is there. -/
def valueLines (heap : Heap) (left right : Value) : Except Raised (List String) :=
  if left = .none ∧ right = .none then .ok []
  else do
    let l ← left.shown heap
    let r ← right.shown heap
    return ["left:  " ++ l, "right: " ++ r]

/-- The report on a failure: its message, the comparison, the values and the example. -/
def reportText (message : String) (display code : Option String) (values : List String) : String :=
  Text.joinLines
    (message :: code.toList.map ("code:  " ++ ·) ++ values
      ++ (display.filter (· ≠ "")).toList.map fun d => "doctest:" ++ indent d)

/-- A failure with its report, or the exception that showing its values raised. -/
def build (heap : Heap) (message : String) (display code : Option String) (left right : Value)
    (line : Option Int) : Except Raised Failure := do
  let values ← valueLines heap left right
  return ⟨message, display, code, left, right, heap, line, reportText message display code values⟩

/-- A failure without values, which can always be reported. -/
def plain (message display : String) (code : Option String) (line : Option Int) : Failure :=
  ⟨message, some display, code, .none, .none, {}, line, reportText message (some display) code []⟩

end Failure

/-- What can cut the check of an example short. -/
inductive Problem where
  | failed (f : Failure)
  | thrown (t : Thrown)
deriving Repr

/-- The failure that was built, or the exception that its report raised. -/
def Problem.ofBuild : Except Raised Failure → Problem
  | .ok f => .failed f
  | .error e => .thrown (.raised e)

end DocExamples
