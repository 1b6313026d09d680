import DocExamples.Job
import DocExamples.Run
import DocExamples.Script.Session

/-!
Verdicts: how the run of a job ended.

A job runs on a session of its own.  A failure is reported with its line; an exception that no
example expects, or a request to end the program, is reported without one.  All else that is thrown
ends the run without a verdict.
-/

namespace DocExamples

/-- How a run ended. -/
inductive Verdict where
  | passed
  | failed (line : Option Int) (message : String)
deriving DecidableEq, Repr

namespace Verdict

/-- A verdict as client data. -/
def toJson : Verdict → Json
  | .passed => .obj [("passed", .bool true), ("line", .null), ("message", .null)]
  | .failed line message =>
    .obj [("passed", .bool false), ("line", Json.ofOption .int line), ("message", .str message)]

/-- The verdict on a run that something unexpected ended. -/
def unexpected (name message : String) : Verdict :=
  .failed none ("Doctest raised " ++ name ++ ": " ++ message)

/-- The verdict on a run that was cut short, or what is thrown on. -/
def ofProblem : Problem → Except Thrown Verdict
  | .failed f => .ok (.failed f.line f.report)
  | .thrown (.malformed m) => .ok (unexpected Check.malformedName m.text)
  | .thrown (.raised e) =>
    if e.cls.isOrdinary ∨ e.cls.isExit then .ok (unexpected e.cls.name e.message)
    else .error (.raised e)
  | .thrown (.halted h) => .error (.halted h)

end Verdict

/-- Run a job on a new session. -/
def Job.run (job : Job) : Except Thrown Verdict :=
  match ((job.group.run (Script.session job.place)).run.run {}).1 with
  | .ok _ => .ok .passed
  | .error p => Verdict.ofProblem p

end DocExamples
