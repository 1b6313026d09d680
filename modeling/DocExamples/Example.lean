import DocExamples.Expectation
import DocExamples.Identifier
import DocExamples.Text.Lines

/-!
Examples, and the groups in which they run.
-/

namespace DocExamples

/-- An expression and the result that its documentation promises. -/
structure Example where
  /-- The lines of the expression, without prompts. -/
  source : List String
  /-- The promised result; empty if there is none. -/
  expected : String
  /-- The example as documented, for reports. -/
  display : String
deriving DecidableEq, Repr

namespace Example

/-- The expression as one text. -/
def sourceText (e : Example) : String := Text.joinLines e.source

/-- What the example promises. -/
def expectation (e : Example) : Expectation := .ofText e.expected

/-- The example expects an exception. -/
def expectsException (e : Example) : Bool :=
  match e.expectation with
  | .exception .. => true
  | _ => false

end Example

/-- Examples that run together, one after the other, as one test. -/
structure Group where
  /-- The line of the first prompt. -/
  startLine : Int
  identifier : Identifier
  examples : List Example
deriving DecidableEq, Repr

end DocExamples
