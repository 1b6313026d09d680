/-!
Client data.

A JSON value keeps the order of its members, and keeps a number with a fraction or an exponent by
its text.
-/

namespace DocExamples

/-- A JSON value. -/
inductive Json where
  | null
  | bool (b : Bool)
  | int (n : Int)
  /-- A number written with a fraction or an exponent. -/
  | float (text : String)
  | str (s : String)
  | arr (items : List Json)
  | obj (members : List (String × Json))
deriving Repr, Inhabited

namespace Json

/-- The members with `key` bound to `value`: a known key keeps its place, a new one comes last. -/
def put (key : String) (value : Json) : List (String × Json) → List (String × Json)
  | [] => [(key, value)]
  | (k, v) :: rest => if k = key then (k, value) :: rest else (k, v) :: put key value rest

/-- The members of `later` put one after the other into `members`. -/
def putAll (members later : List (String × Json)) : List (String × Json) :=
  later.foldl (fun ms m => put m.1 m.2 ms) members

/-- The value that the members bind to a key. -/
def lookup (key : String) (members : List (String × Json)) : Option Json :=
  (members.find? (·.1 = key)).map (·.2)

/-- The value of a member of an object. -/
def get? (key : String) : Json → Option Json
  | .obj members => lookup key members
  | _ => none

/-- The text of a string value. -/
def str? : Json → Option String
  | .str s => some s
  | _ => none

/-- A value, with null for a missing one. -/
def ofOption {α : Type} (f : α → Json) : Option α → Json
  | some a => f a
  | none => .null

/-- A list of values. -/
def ofList {α : Type} (f : α → Json) (items : List α) : Json := .arr (items.map f)

end Json

end DocExamples
