import DocExamples.Json
import DocExamples.Refusal
import DocExamples.Text.Lines

/-!
Reports: the outcomes of all tests of a source, as client data and as text.
-/

namespace DocExamples

/-- The outcome of a test. -/
structure Outcome where
  name : String
  line : Int
  passed : Bool
  message : Option String
  /-- Why the test did not come to an end. -/
  code : Option RefusalCode
deriving DecidableEq, Repr

/-- The outcomes of the tests of a document or a module. -/
structure Report where
  source : String
  outcomes : List Outcome
deriving DecidableEq, Repr

/-- An outcome as client data. -/
def Outcome.toJson (o : Outcome) : Json :=
  .obj [("name", .str o.name), ("line", .int o.line), ("passed", .bool o.passed),
    ("message", Json.ofOption .str o.message),
    ("error_code", Json.ofOption (fun c => .str c.text) o.code)]

namespace Report

/-- The outcomes of tests that did not pass. -/
def failures (r : Report) : List Outcome := r.outcomes.filter (!·.passed)

/-- How many tests passed. -/
def passed (r : Report) : Nat := r.outcomes.countP (·.passed)

/-- How many tests did not pass. -/
def failed (r : Report) : Nat := r.outcomes.length - r.passed

/-- All tests passed. -/
def success (r : Report) : Bool := r.failed = 0

/-- A report as client data. -/
def toJson (r : Report) : Json :=
  .obj [("source", .str r.source), ("total", .int r.outcomes.length), ("passed", .int r.passed),
    ("failed", .int r.failed), ("success", .bool r.success),
    ("results", Json.ofList Outcome.toJson r.outcomes)]

/-- The line of a report that counts. -/
def summary (r : Report) : String :=
  (if r.success then "PASSED" else "FAILED") ++ ": " ++ toString r.passed ++ " passed, "
    ++ toString r.failed ++ " failed (" ++ toString r.outcomes.length ++ " doctest(s) from "
    ++ r.source ++ ")"

/-- The lines on a test that did not pass: its name, then its message further to the right. -/
def failureLines (o : Outcome) : List String :=
  ("  - " ++ o.name ++ " (line " ++ toString o.line ++ ")")
    :: (Text.boundaryLines (o.message.getD "")).map ("      " ++ ·)

/-- A report as text: what was counted, then every failure. -/
def text (r : Report) : String :=
  Text.joinLines
    (r.summary
      :: if r.failures.isEmpty then []
        else "" :: "Failures:" :: r.failures.flatMap failureLines)

end Report

end DocExamples
