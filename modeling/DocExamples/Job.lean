import DocExamples.Example
import DocExamples.Json
import DocExamples.Place

/-!
Jobs: a group of examples packed up with its place, to be run elsewhere.

A job travels as client data, and nothing of it is lost on the way.
-/

namespace DocExamples

/-- A group of examples and where it comes from. -/
structure Job where
  place : Place
  group : Group
deriving DecidableEq, Repr

/-- Why client data is no job. -/
inductive JobFault where
  /-- A member is missing. -/
  | missing (key : String)
  /-- A member has a value of the wrong type. -/
  | type (key : String)
  | identifier (fault : Identifier.Fault)
deriving DecidableEq, Repr

namespace JobFault

/-- The wording of a fault. -/
def message : JobFault → String
  | .missing key => Text.quoted key
  | .type key => "unexpected type of " ++ Text.quoted key
  | .identifier fault => fault.message

end JobFault

namespace Job

/-! ### Writing -/

/-- An example as client data. -/
def exampleJson (e : Example) : Json :=
  .obj [("source_lines", Json.ofList .str e.source), ("expected_raw", .str e.expected),
    ("display_text", .str e.display)]

/-- A job as client data. -/
def toJson (job : Job) : Json :=
  .obj [("name", Json.ofOption .str job.place.name), ("file", Json.ofOption .str job.place.file),
    ("start_line", .int job.group.startLine), ("identifier", .str job.group.identifier.text),
    ("pairs", Json.ofList exampleJson job.group.examples)]

/-! ### Reading -/

/-- A member that must be there, read as `f` says. -/
def member {α : Type} (key : String) (f : Json → Option α) (j : Json) : Except JobFault α :=
  match j.get? key with
  | none => .error (.missing key)
  | some v =>
    match f v with
    | none => .error (.type key)
    | some a => .ok a

/-- The text of a value, or null. -/
def nullable : Json → Option (Option String)
  | .null => some none
  | .str s => some (some s)
  | _ => none

/-- The number of a whole number. -/
def integer : Json → Option Int
  | .int n => some n
  | _ => none

/-- The items of an array. -/
def items : Json → Option (List Json)
  | .arr items => some items
  | _ => none

/-- The texts of an array. -/
def texts (j : Json) : Option (List String) := do (← items j).mapM Json.str?

/-- The example that client data gives. -/
def exampleOf (j : Json) : Except JobFault Example := do
  let source ← member "source_lines" texts j
  let expected ← member "expected_raw" Json.str? j
  let display ← member "display_text" Json.str? j
  return ⟨source, expected, display⟩

/-- The job that client data gives.  The members are read one after the other, so the first one
that is missing or wrong decides. -/
def ofJson (j : Json) : Except JobFault Job := do
  let startLine ← member "start_line" integer j
  let identifier ← (Identifier.parse (← member "identifier" Json.str? j)).mapError .identifier
  let examples ← (← member "pairs" items j).mapM exampleOf
  let name ← member "name" nullable j
  let file ← member "file" nullable j
  return ⟨⟨name, file⟩, ⟨startLine, identifier, examples⟩⟩

end Job

end DocExamples
