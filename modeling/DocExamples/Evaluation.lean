import DocExamples.Extraction
import DocExamples.Report
import DocExamples.Verdict

/-!
Evaluation: every test of an extraction is run as a job of its own, within a time limit.

A test that does not come to an end never affects another one; its outcome has the code of what
stopped it.
-/

namespace DocExamples

/-- How many seconds a test may take, as the number is written. -/
structure TimeLimit where
  seconds : String := "30"
deriving DecidableEq, Repr

namespace TimeLimit

/-- A time in which no test can even start. -/
def startTime : Text.Binary64 := .finite 1 (-5)

/-- The limit leaves time to run at all. -/
def leavesTime (limit : TimeLimit) : Bool :=
  !(Text.Binary64.ofText limit.seconds).less startTime

end TimeLimit

/-- The end of a run. -/
inductive Ending where
  | verdict (v : Verdict)
  | timedOut (limit : TimeLimit)
  /-- The process ended before there was a verdict. -/
  | exited (code : Int) (errors : String)
deriving DecidableEq, Repr

/-- The end of a run of a job within a limit. -/
def Job.runWithin (limit : TimeLimit) (job : Job) : Ending :=
  if !limit.leavesTime then .timedOut limit
  else
    match job.run with
    | .ok v => .verdict v
    | .error (.halted .endless) => .timedOut limit
    | .error (.halted (.exit code)) => .exited code ""
    | .error (.raised e) => .exited 1 (e.cls.name ++ ": " ++ e.message)
    | .error (.malformed m) => .exited 1 (Check.malformedName ++ ": " ++ m.text)

namespace NamedTest

/-- The line of a failure, or of the test where there is none; line zero counts as none. -/
def lineOf (t : NamedTest) (line : Option Int) : Int :=
  (line.filter (· ≠ 0)).getD t.group.startLine

/-- The outcome of a test whose run ended so. -/
def outcome (t : NamedTest) : Ending → Outcome
  | .verdict .passed => ⟨t.name, t.group.startLine, true, none, none⟩
  | .verdict (.failed line message) => ⟨t.name, t.lineOf line, false, some message, none⟩
  | .timedOut limit =>
    ⟨t.name, t.group.startLine, false,
      some ("Doctest timed out (" ++ limit.seconds ++ "s limit)"), some .timeoutError⟩
  | .exited code errors =>
    ⟨t.name, t.group.startLine, false,
      some ("Doctest process exited with code " ++ toString code ++ ": " ++ errors),
      some .executionError⟩

end NamedTest

/-- The report on all tests of an extraction. -/
def Extraction.evaluate (limit : TimeLimit) (x : Extraction) : Report where
  source := x.source
  outcomes := x.tests.map fun t =>
    t.outcome (Job.runWithin limit ⟨{ name := some x.source, file := x.file }, t.group⟩)

end DocExamples
