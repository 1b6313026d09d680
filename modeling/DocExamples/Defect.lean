import DocExamples.Identifier
import DocExamples.Place

/-!
What can be wrong with a documentation text or with a selection of its examples.

A `Defect` is the cause, with the line it stands on.  A `Fault` is what a reader is told: the kind
of the defect, its wording and its place.  Both are written out when the fault is made, which raises
an exception where a number has too many digits.
-/

namespace DocExamples

/-- The kinds of structural faults. -/
inductive FaultKind where
  /-- A line does not keep the margin of its example. -/
  | indentationMismatch
  /-- A numbered prompt is not closed. -/
  | unknownPromptFormat
  /-- An example expects more than one exception. -/
  | multipleExceptions
  /-- A selection names documentation that does not exist. -/
  | undefinedSelector
  /-- An expression, or an expected result, does not parse. -/
  | malformedSource
  /-- Any other fault. -/
  | general
deriving DecidableEq, Repr

/-- A structural fault as it is reported. -/
structure Fault extends Notice where
  kind : FaultKind
deriving DecidableEq, Repr

/-- Why a documentation text cannot be read, or a selection cannot be made. -/
inductive Defect where
  /-- The line directly follows a prompt, or is one, and does not start at the margin. -/
  | indentationMismatch (line : Int) (text : String) (margin : Nat)
  /-- A numbered prompt lacks the mark that closes the number. -/
  | unknownPrompt (line : Int) (text : String)
  /-- The group starting at this line expects two or more exceptions. -/
  | multipleExceptions (line : Int)
  /-- The listed identifiers were asked for and select nothing. -/
  | undefinedSelectors (missing : List Identifier)
deriving DecidableEq, Repr

namespace Defect

/-- The kind that a defect is reported as. -/
def kind : Defect → FaultKind
  | .indentationMismatch .. => .indentationMismatch
  | .unknownPrompt .. => .unknownPromptFormat
  | .multipleExceptions .. => .multipleExceptions
  | .undefinedSelectors .. => .undefinedSelector

/-- The line that a defect stands on. -/
def line : Defect → Option Int
  | .indentationMismatch n _ _ => some n
  | .unknownPrompt n _ => some n
  | .multipleExceptions n => some n
  | .undefinedSelectors _ => none

/-- The numbers of arguments of the identifiers that a defect names. -/
def arities : Defect → List Int
  | .undefinedSelectors missing => missing.filterMap Identifier.arity?
  | _ => []

/-- The wording of a wrong margin: what was found, and the two ways to mend it. -/
def indentationMessage (text : String) (margin : Nat) : String :=
  "indentation level mismatch on doctest line: " ++ Text.quoted text ++ "\n\n"
    ++ "If you are planning to assert on the result of an `iex>` expression, "
    ++ "make sure the result is indented at the beginning of `iex>`, which in this case is exactly "
    ++ toString margin ++ (if margin = 1 then " space" else " spaces") ++ ".\n\n"
    ++ "If instead you have an `iex>` expression that spans over multiple lines, "
    ++ "please make sure that each line after the first one begins with `...>`.\n"

/-- The prompts that are understood. -/
def acceptedPrompts : String := "iex>, iex(1)>, ...>, ...(1)>"

/-- The wording of a defect found at a place; missing identifiers carry the place's name. -/
def message (place : Place) : Defect → String
  | .indentationMismatch _ text margin => indentationMessage text margin
  | .unknownPrompt _ text =>
    "unknown IEx prompt: " ++ Text.quoted text ++ ".\nAccepted formats are: " ++ acceptedPrompts
  | .multipleExceptions _ =>
    "multiple exceptions in the same doctest example are not supported, "
      ++ "please separate your iex> prompts by multiple newlines to start new examples"
  | .undefinedSelectors missing =>
    "undefined or private " ++ (if missing.length = 1 then "function" else "functions")
      ++ " given to doctest:\n\n    "
      ++ String.intercalate "\n    " (missing.map (·.format place.name)) ++ "\n\n"

/-- The fault that a defect is reported as.  It writes the numbers of arguments of the identifiers
and the line of the defect, so there is none if one of them has too many digits. -/
def fault (place : Place) (d : Defect) : Except Raised Fault :=
  if d.arities.any Text.hasTooManyDigits then .error Text.tooManyDigits
  else (Notice.write place d.line (d.message place)).map fun notice => ⟨notice, d.kind⟩

end Defect

end DocExamples
