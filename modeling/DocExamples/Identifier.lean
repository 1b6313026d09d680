import DocExamples.Text.Integer

/-!
What a piece of documentation is attached to: the module as a whole, or one of its callables.
An identifier has a written form, `moduledoc` or `name/arity`.
-/

namespace DocExamples

/-- The owner of a piece of documentation. -/
inductive Identifier where
  /-- The enclosing module or document as a whole. -/
  | moduledoc
  /-- A callable of the module, with its number of arguments.  A written form gives a natural
  number; who makes an identifier without reading one may give any. -/
  | callable (name : String) (arity : Int)
deriving DecidableEq, Repr

namespace Identifier

/-- The number of arguments of a callable. -/
def arity? : Identifier → Option Int
  | .moduledoc => none
  | .callable _ arity => some arity

/-! ### Writing -/

/-- The written form of the identifier of a whole module. -/
def moduledocText : String := "moduledoc"

/-- The written form, with the module's name where one is known; an empty name is none.  A number of
arguments that was read from a text has few enough digits to be written (`parse`); reports on other
identifiers check it (`arity?`). -/
def format (module : Option String) : Identifier → String
  | .moduledoc =>
    match module.filter (· ≠ "") with
    | some m => "module " ++ m
    | none => moduledocText
  | .callable name arity =>
    match module.filter (· ≠ "") with
    | some m => m ++ "." ++ name ++ "/" ++ toString arity
    | none => name ++ "/" ++ toString arity

/-- The plain written form, which `parse` reads. -/
def text (i : Identifier) : String := i.format none

/-- The name of the `n`-th test of a module. -/
def testName (i : Identifier) (module : String) (n : Int) : String :=
  i.format (some module) ++ " (" ++ toString n ++ ")"

/-! ### Reading -/

/-- Why a text is no identifier. -/
inductive Fault where
  /-- The text has neither form. -/
  | form (text : String)
  /-- What follows the last slash are digits, but they write no number. -/
  | arity (fault : Text.IntegerFault)
deriving DecidableEq, Repr

/-- The wording of a refusal. -/
def Fault.message : Fault → String
  | .form text =>
    "invalid doctest identifier " ++ Text.quoted text ++ ", expected 'moduledoc' or 'name/arity'"
  | .arity fault => fault.message

/-- The characters before and after the last occurrence of `sep`. -/
def splitLast (sep : Char) : List Char → Option (List Char × List Char)
  | [] => none
  | c :: cs =>
    match splitLast sep cs with
    | some (before, after) => some (c :: before, after)
    | none => if c = sep then some ([], cs) else none

/-- The identifier that a text writes; white space around it is ignored. -/
def parse (s : String) : Except Fault Identifier :=
  let body := Text.trim s
  if body = moduledocText then .ok .moduledoc
  else
    match splitLast '/' body.toList with
    | some (name@(_ :: _), arity@(_ :: _)) =>
      if arity.all Text.isDigit then
        match Text.readInteger (.ofList arity) with
        | .ok n => .ok (.callable (.ofList name) n)
        | .error fault => .error (.arity fault)
      else .error (.form body)
    | _ => .error (.form body)

end Identifier

end DocExamples
