import DocExamples.Document
import DocExamples.Request

/-!
Extraction: the tests of a document or of a module's units, as a client asks for them.
-/

namespace DocExamples

/-- The tests found for a request. -/
structure Extraction where
  /-- The document or the module. -/
  source : String
  tests : List NamedTest
  /-- The file that the documentation comes from. -/
  file : Option String
deriving Repr

/-- What is expected, as client data. -/
def Expectation.toJson : Expectation → Json
  | .none => .obj [("kind", .str "none")]
  | .exception name message =>
    .obj [("kind", .str "exception"), ("exception_name", .str name), ("message", .str message)]
  | .shown display => .obj [("kind", .str "inspect"), ("expected_display", .str display)]
  | .value source => .obj [("kind", .str "value"), ("expected_source", .str source)]

/-- The classification of an expected text that a client sends. -/
def Expectation.ofRequest : Option String → Except Refusal Expectation
  | .some text => .ok (.ofText text)
  | .none => .error { code := .missingInput, message := "'expected' is required" }

namespace Extraction

/-- How many examples the tests hold. -/
def exampleCount (x : Extraction) : Nat := (x.tests.flatMap (·.group.examples)).length

/-- An example as client data. -/
def exampleJson (e : Example) : Json :=
  .obj [("source", .str e.sourceText), ("expected", e.expectation.toJson),
    ("doctest", .str e.display)]

/-- A test as client data. -/
def testJson (t : NamedTest) : Json :=
  .obj [("name", .str t.name), ("line", .int t.group.startLine),
    ("identifier", .str t.group.identifier.text), ("tags", .obj t.tags),
    ("examples", Json.ofList exampleJson t.group.examples)]

/-- The tests as client data. -/
def toJson (x : Extraction) : Json :=
  .obj [("source", .str x.source), ("total_doctests", .int x.tests.length),
    ("total_examples", .int x.exampleCount), ("doctests", Json.ofList testJson x.tests)]

/-- The result of a text or a selection, which is refused if it has a defect. -/
def refuse {α : Type} (place : Place) (result : Except Defect α) : Except Interruption α :=
  result.mapError fun d => .ofFault (d.fault place)

/-- The tests of a document. -/
def ofDocument (limits : DocumentLimits) (tree : FileTree) (text path : Option String) :
    Except Interruption Extraction := do
  let doc ← Document.load limits tree text path
  let place : Place := { name := some doc.name, file := some doc.name }
  let tests ← refuse place (Listing.ofDocument doc.name [] doc.content)
  return ⟨doc.name, tests, some doc.name⟩

/-- The groups of a unit as sent. -/
def unitGroups (place : Place) (u : UnitRequest) : Except Interruption (List Group) := do
  let unit ← u.toUnit.mapError .raised
  refuse place (Transcript.extract unit.identifier unit.text unit.line)

/-- The groups of the units as sent.  The units are read in order, so the first one that fails
decides how. -/
def groupsOf (place : Place) (units : List UnitRequest) : Except Interruption (List Group) := do
  return (← units.mapM (unitGroups place)).flatten

/-- The tests of units that were read from a request. -/
def ofUnitRequests (module : String) (file : Option String) (units : List UnitRequest)
    (selection : Selection) : Except Interruption Extraction := do
  let place : Place := { name := some module, file := file }
  let groups ← groupsOf place units
  let selected ← refuse place (selection.apply groups)
  return ⟨module, Listing.forModule module [] selected, file⟩

/-- The tests of the units that a client sends for a module. -/
def ofRequest (module : Option String) (units only exclude : Json) (file : Option String) :
    Except Interruption Extraction :=
  match module.filter (· ≠ "") with
  | none => .error (.refused { code := .missingInput, message := "'module' is required" })
  | some module =>
    match Request.read units only exclude with
    | .ok (units, selection) => ofUnitRequests module file units selection
    | .error (.invalid fault) =>
      .error (.refused {
        code := .validationError, message := "Invalid doctest units: " ++ fault.message })
    | .error (.raised e) => .error (.raised e)

end Extraction

end DocExamples
