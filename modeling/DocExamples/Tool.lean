import DocExamples.Evaluation
import DocExamples.Json.Printer

/-!
Tools: what clients can ask the service for.

A tool has a name, a description and a schema of its arguments.  A call answers with one text; a
refusal is answered with its message.
-/

namespace DocExamples

/-- The tools of the service. -/
inductive Tool where
  | extractDoctests
  | classifyExpected
  | runDoctests
deriving DecidableEq, Repr

/-! ### Schemas -/

namespace Schema

/-- A value of a type. -/
def type (name : String) : Json := .obj [("type", .str name)]

/-- A value of a type, with a description. -/
def described (name description : String) : Json :=
  .obj [("type", .str name), ("description", .str description)]

/-- An array. -/
def array (items : Json) (description : Option String) : Json :=
  .obj ([("type", .str "array"), ("items", items)]
    ++ description.toList.map fun d => ("description", .str d))

/-- An object with some members that it must have. -/
def object (properties : List (String × Json)) (required : List String) : Json :=
  .obj ([("type", .str "object"), ("properties", .obj properties)]
    ++ if required.isEmpty then [] else [("required", Json.ofList .str required)])

/-- A unit of a module's documentation. -/
def unit : Json :=
  object
    [("identifier",
       described "string" "'moduledoc' or 'name/arity' of the documented callable"),
     ("line", described "integer" "Line of the documentation attribute in the source file"),
     ("text", described "string" "Raw documentation text")]
    ["text"]

/-- The arguments that name documentation.  The lists of identifiers may be described. -/
def documentation (only except : Option String) : Json :=
  object
    [("file_path", described "string" "Path to a documentation file (.md, .txt, ...)"),
     ("text", described "string" "Documentation text (alternative to file_path)"),
     ("module", described "string" "Module name, required when 'units' is given"),
     ("units", array unit (some "Per-function documentation units")),
     ("only", array (type "string") only),
     ("except", array (type "string") except)]
    []

end Schema

namespace Tool

/-! ### Definitions -/

/-- All tools. -/
def all : List Tool := [.extractDoctests, .classifyExpected, .runDoctests]

/-- The name of a tool. -/
def name : Tool → String
  | .extractDoctests => "extract_doctests"
  | .classifyExpected => "classify_expected"
  | .runDoctests => "run_doctests"

/-- What a tool does. -/
def description : Tool → String
  | .extractDoctests =>
    "Extract iex> doctest examples from documentation. Accepts a documentation file, raw text, "
      ++ "or per-function documentation units. Returns each doctest with its examples and the "
      ++ "classification of their expected results (value, inspect, exception or none)."
  | .classifyExpected =>
    "Classify the expected result text of a doctest example: no expectation, raised exception "
      ++ "(** (Name) message), inspected value (#Name<...>) or plain value compared by equality."
  | .runDoctests =>
    "Extract iex> doctest examples and run them as Python. Each doctest runs in its own "
      ++ "namespace; examples in the same doctest share variables. Reports passed and failed "
      ++ "doctests with the failing example's transcript."

/-- The arguments of a tool. -/
def schema : Tool → Json
  | .extractDoctests =>
    Schema.documentation (some "Only extract these identifiers (units mode)")
      (some "Skip these identifiers (units mode)")
  | .classifyExpected =>
    Schema.object
      [("expected",
         Schema.described "string" "Expected result text as written after the iex> lines")]
      ["expected"]
  | .runDoctests => Schema.documentation none none

/-- The definition of a tool, as clients see it. -/
def toJson (tool : Tool) : Json :=
  .obj [("name", .str tool.name), ("description", .str tool.description),
    ("inputSchema", tool.schema)]

/-- The tool with a name. -/
def ofName? (name : String) : Option Tool := all.find? (·.name = name)

/-! ### Calls -/

/-- The text of an argument, if it is given. -/
def textArgument (arguments : Json) (key : String) : Option String :=
  (arguments.get? key).bind Json.str?

/-- An argument, null if it is missing. -/
def argument (arguments : Json) (key : String) : Json := (arguments.get? key).getD .null

/-- The tests of the documentation that the arguments name: units, or else a document. -/
def extract (tree : FileTree) (arguments : Json) : Except Interruption Extraction :=
  match argument arguments "units" with
  | .null =>
    Extraction.ofDocument {} tree (textArgument arguments "text")
      (textArgument arguments "file_path")
  | units =>
    Extraction.ofRequest (textArgument arguments "module") units (argument arguments "only")
      (argument arguments "except") (textArgument arguments "file_path")

/-- What a tool answers. -/
def run (tool : Tool) (tree : FileTree) (arguments : Json) : Except Interruption String :=
  match tool with
  | .extractDoctests => do return (← extract tree arguments).toJson.pretty
  | .classifyExpected => do
    let expectation ←
      (Expectation.ofRequest (textArgument arguments "expected")).mapError .refused
    return expectation.toJson.pretty
  | .runDoctests => do return ((← extract tree arguments).evaluate {}).text

/-- The answer to a call of the tool with a name; only an exception escapes. -/
def answer (tree : FileTree) (name : String) (arguments : Json) : Except Raised String :=
  match ofName? name with
  | none => .ok ("Unknown tool: " ++ name)
  | some tool =>
    match tool.run tree arguments with
    | .ok text => .ok text
    | .error (.refused r) => .ok ("Error: " ++ r.message)
    | .error (.raised e) => .error e

end Tool

end DocExamples
