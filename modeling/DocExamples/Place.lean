import DocExamples.Text.Number

/-!
Where a documentation text comes from, and what is said about it.
-/

namespace DocExamples

/-- The origin of a documentation text, for messages and test names. -/
structure Place where
  /-- The module or document, such as `MyModule` or `README.md`. -/
  name : Option String := none
  /-- The file that holds the text. -/
  file : Option String := none
deriving DecidableEq, Repr

/-- A message with the file and line it speaks of in front.  An empty file name counts as no
file. -/
def Place.locate (place : Place) (line : Option Int) (message : String) :
    Except Raised String :=
  (line.mapM Text.digits).map fun digits =>
    match place.file.filter (· ≠ ""), digits with
    | some file, some n => file ++ ":" ++ n ++ ": " ++ message
    | some file, none => file ++ ": " ++ message
    | none, some n => "line " ++ n ++ ": " ++ message
    | none, none => message

/-- Something said about a place.  There is no notice whose text cannot be written. -/
structure Notice where
  message : String
  line : Option Int
  place : Place
  /-- The message behind its place. -/
  text : String
  text_eq : place.locate line message = .ok text
deriving DecidableEq, Repr

/-- A notice, or the exception that writing its text raises. -/
def Notice.write (place : Place) (line : Option Int) (message : String) : Except Raised Notice :=
  match h : place.locate line message with
  | .ok text => .ok ⟨message, line, place, text, h⟩
  | .error e => .error e

end DocExamples
