import DocExamples.Text.Blank

/-!
Expected results.

The text behind an expression states one of four things: nothing; an exception,
`** (Name) message`; a value that is only shown, `#Name<...>`; or a value in source form.
-/

namespace DocExamples

/-- What an example promises. -/
inductive Expectation where
  /-- Nothing: the value is discarded. -/
  | none
  /-- An exception with this name and message. -/
  | exception (name message : String)
  /-- A value whose shown form is this text. -/
  | shown (display : String)
  /-- The value of this source. -/
  | value (source : String)
deriving DecidableEq, Repr

namespace Expectation

open Text

/-- The text in front of the name of an expected exception. -/
def exceptionMark : String := "** ("

/-- The text in front of the first closing parenthesis, and the text behind it. -/
def splitName : List Char → List Char × List Char
  | [] => ([], [])
  | c :: cs =>
    if c = ')' then ([], cs)
    else
      let (name, rest) := splitName cs
      (c :: name, rest)

/-- The rest of a shown value's name and the mark that ends it: ASCII letters, digits and
underscores, and points before an upper case letter. -/
def endsShownName : List Char → Bool
  | [] => false
  | '<' :: _ => true
  | '.' :: c :: rest => c.isUpper && endsShownName rest
  | c :: rest => (c.isAlphanum || c = '_') && endsShownName rest

/-- The text starts as a shown value does: a number sign, a name that starts with an upper case
letter, and the mark that ends the name. -/
def isShown (s : String) : Bool :=
  match s.toList with
  | '#' :: c :: rest => c.isUpper && endsShownName rest
  | _ => false

/-- What an expected text promises. -/
def ofText (s : String) : Expectation :=
  if s = "" then .none
  else if startsWith exceptionMark s then
    let (name, message) := splitName (s.toList.drop exceptionMark.length)
    .exception (.ofList name) (trimStart (.ofList message))
  else if isShown s then .shown s
  else .value s

end Expectation

end DocExamples
