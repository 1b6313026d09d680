import DocExamples.Json.Printer
import DocExamples.Json.Reader
import DocExamples.Verdict

/-!
The command line: a job is read from standard input and run, and the verdict on it is printed.
-/

namespace DocExamples.CommandLine

/-- Print a complaint and give the exit code that tells of it. -/
def complain (message : String) : IO UInt32 := do
  IO.eprintln message
  return 1

/-- What a job does that never ends. -/
partial def waitForEver : IO UInt32 := do
  IO.sleep 1000
  waitForEver

/-- Run a job and print the verdict. -/
def runJob (job : Job) : IO UInt32 :=
  match job.run with
  | .ok verdict => do
    IO.print verdict.toJson.compact
    return 0
  | .error (.halted .endless) => waitForEver
  | .error (.halted (.exit code)) => return code.toNat.toUInt32
  | .error (.raised e) => complain (e.cls.name ++ ": " ++ e.message)
  | .error (.malformed m) => complain m.text

/-- Run the job that a text holds. -/
def runText (text : String) : IO UInt32 :=
  match (Json.parse? text).map Job.ofJson with
  | none => complain "standard input holds no JSON"
  | some (.error fault) => complain fault.message
  | some (.ok job) => runJob job

end DocExamples.CommandLine

/-- Read a job and run it. -/
def main : IO UInt32 := do
  DocExamples.CommandLine.runText (← (← IO.getStdin).readToEnd)
