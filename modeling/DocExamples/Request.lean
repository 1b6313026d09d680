import DocExamples.Json
import DocExamples.Listing
import DocExamples.Raised
import DocExamples.Text.Binary64

/-!
Requests for the documentation units of a module.

Clients send untyped data.  A list may be given as an array, as a string (its characters) or as an
object (its keys); an identifier may be any value and is read from its plain text; a line may be a
number, a truth value or a text that writes a whole number.
-/

namespace DocExamples

/-! ### Client data as text -/

namespace Json

/-- The name of the type of client data. -/
def typeName : Json → String
  | .null => "NoneType"
  | .bool _ => "bool"
  | .int _ => "int"
  | .float _ => "float"
  | .str _ => "str"
  | .arr _ => "list"
  | .obj _ => "dict"

mutual

/-- Client data as it is shown. -/
def shown : Json → String
  | .null => "None"
  | .bool b => if b then "True" else "False"
  | .int n => toString n
  | .float text => text
  | .str s => Text.quoted s
  | .arr items => "[" ++ String.intercalate ", " (shownItems items) ++ "]"
  | .obj members => "\x7b" ++ String.intercalate ", " (shownMembers members) ++ "\x7d"

/-- The items of an array as they are shown. -/
def shownItems : List Json → List String
  | [] => []
  | v :: rest => shown v :: shownItems rest

/-- The members of an object as they are shown. -/
def shownMembers : List (String × Json) → List String
  | [] => []
  | (key, v) :: rest => (Text.quoted key ++ ": " ++ shown v) :: shownMembers rest

end

/-- Client data as plain text: a string as it is, anything else as it is shown. -/
def plainText : Json → String
  | .str s => s
  | j => j.shown

/-- Client data counts as given: it is not null, false, zero or empty. -/
def isGiven : Json → Bool
  | .null => false
  | .bool b => b
  | .int n => n ≠ 0
  | .float text => !(Text.Binary64.ofText text).equal (.ofInt 0)
  | .str s => s ≠ ""
  | .arr items => !items.isEmpty
  | .obj members => !members.isEmpty

/-- The items that client data lists, if it lists any. -/
def elements? : Json → Option (List Json)
  | .arr items => some items
  | .str s => some (s.toList.map fun c => .str (.singleton c))
  | .obj members => some (members.map fun m => .str m.1)
  | _ => none

end Json

/-! ### Faults -/

/-- Why a request for units cannot be read. -/
inductive RequestFault where
  /-- Data of this type lists nothing. -/
  | notIterable (typeName : String)
  /-- A unit is given as data of this type. -/
  | notObject (typeName : String)
  | identifier (fault : Identifier.Fault)
  /-- A text for a line writes no number. -/
  | line (fault : Text.IntegerFault)
  /-- A line is given as data of this type. -/
  | lineType (typeName : String)
  /-- A line is given as something that is not a number. -/
  | lineNotANumber
  /-- A unit has no text. -/
  | missingText
deriving DecidableEq, Repr

/-- The wording of a fault. -/
def RequestFault.message : RequestFault → String
  | .notIterable typeName => Text.quoted typeName ++ " object is not iterable"
  | .notObject typeName => "each unit must be an object, got " ++ typeName
  | .identifier fault => fault.message
  | .line fault => fault.message
  | .lineType typeName =>
    "int() argument must be a string, a bytes-like object or a real number, not "
      ++ Text.quoted typeName
  | .lineNotANumber => "cannot convert float NaN to integer"
  | .missingText => Text.quoted "text"

/-- What cuts the reading of a request short. -/
inductive RequestProblem where
  /-- The request is refused. -/
  | invalid (fault : RequestFault)
  /-- An exception escapes. -/
  | raised (e : Raised)
deriving DecidableEq, Repr

/-! ### Units -/

/-- A unit as sent, of which only the text is not yet checked. -/
structure UnitRequest where
  identifier : Identifier
  line : Int
  text : Json
deriving Repr

namespace Request

/-- The identifier that client data writes. -/
def identifier (j : Json) : Except RequestFault Identifier :=
  (Identifier.parse j.plainText).mapError .identifier

/-- The line that client data gives. -/
def line (j : Json) : Except RequestProblem Int :=
  match j with
  | .int n => .ok n
  | .bool b => .ok (if b then 1 else 0)
  | .float text =>
    match Text.Binary64.ofText text with
    | .infinite _ =>
      .error (.raised (.builtin "OverflowError" "cannot convert float infinity to integer"))
    | number =>
      match number.truncate with
      | some n => .ok n
      | none => .error (.invalid .lineNotANumber)
  | .str s => (Text.readInteger s).mapError fun f => .invalid (.line f)
  | _ => .error (.invalid (.lineType j.typeName))

/-- The unit that client data gives. -/
def unit (j : Json) : Except RequestProblem UnitRequest := do
  match j with
  | .obj members =>
    let i ← (identifier ((Json.lookup "identifier" members).getD (.str Identifier.moduledocText)))
      |>.mapError .invalid
    let n ← line ((Json.lookup "line" members).getD (.int 0))
    match Json.lookup "text" members with
    | some text => return ⟨i, n, text⟩
    | none => throw (.invalid .missingText)
  | _ => throw (.invalid (.notObject j.typeName))

/-- The items that client data lists. -/
def elements (j : Json) : Except RequestProblem (List Json) :=
  match j.elements? with
  | some items => .ok items
  | none => .error (.invalid (.notIterable j.typeName))

/-- The identifiers that client data lists. -/
def identifiers (j : Json) : Except RequestProblem (List Identifier) := do
  (← elements j).mapM fun item => (identifier item).mapError .invalid

/-- The identifiers that a request asks for; without a list it asks for everything. -/
def kept : Json → Except RequestProblem (Option (List Identifier))
  | .null => .ok none
  | j => (identifiers j).map some

/-- The identifiers that a request leaves out; the list is read if it is given. -/
def leftOut (j : Json) : Except RequestProblem (List Identifier) :=
  if j.isGiven then identifiers j else .ok []

/-- The units and the selection of a request. -/
def read (units only exclude : Json) : Except RequestProblem (List UnitRequest × Selection) := do
  let units ← (← elements units).mapM unit
  let only ← kept only
  let exclude ← leftOut exclude
  return (units, ⟨only, exclude⟩)

end Request

/-- The exception that a text of the wrong type raises when it is read. -/
def UnitRequest.textFault (j : Json) : Raised :=
  .builtin "AttributeError" (Text.quoted j.typeName ++ " object has no attribute 'replace'")

/-- The unit, if its text is one. -/
def UnitRequest.toUnit (u : UnitRequest) : Except Raised DocUnit :=
  match u.text with
  | .str text => .ok ⟨u.identifier, u.line, text⟩
  | j => .error (UnitRequest.textFault j)

end DocExamples
