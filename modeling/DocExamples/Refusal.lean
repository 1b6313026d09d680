import DocExamples.Defect
import DocExamples.Json
import DocExamples.Raised
import DocExamples.Text.Quoted

/-!
Refusals: why a request of a client was not carried out.
-/

namespace DocExamples

/-- The codes of refusals. -/
inductive RefusalCode where
  | validationError
  | missingInput
  | fileNotFound
  | permissionDenied
  | fileTooLarge
  | invalidExtension
  | indentationMismatch
  | unknownPromptFormat
  | multipleExceptions
  | undefinedSelector
  | malformedSource
  | doctestError
  | executionError
  | timeoutError
  | internalError
deriving DecidableEq, Repr

namespace RefusalCode

/-- All codes. -/
def all : List RefusalCode :=
  [.validationError, .missingInput, .fileNotFound, .permissionDenied, .fileTooLarge,
   .invalidExtension, .indentationMismatch, .unknownPromptFormat, .multipleExceptions,
   .undefinedSelector, .malformedSource, .doctestError, .executionError, .timeoutError,
   .internalError]

/-- The text of a code. -/
def text : RefusalCode → String
  | .validationError => "validation_error"
  | .missingInput => "missing_input"
  | .fileNotFound => "file_not_found"
  | .permissionDenied => "permission_denied"
  | .fileTooLarge => "file_too_large"
  | .invalidExtension => "invalid_extension"
  | .indentationMismatch => "indentation_mismatch"
  | .unknownPromptFormat => "unknown_prompt_format"
  | .multipleExceptions => "multiple_exceptions"
  | .undefinedSelector => "undefined_selector"
  | .malformedSource => "malformed_source"
  | .doctestError => "doctest_error"
  | .executionError => "execution_error"
  | .timeoutError => "timeout_error"
  | .internalError => "internal_error"

/-- The code with a text. -/
def ofText? (s : String) : Option RefusalCode := all.find? (·.text = s)

/-- The complaint about a text that is no code. -/
def unknownMessage (s : String) : String := Text.quoted s ++ " is not a valid ErrorCode"

/-- The code of a structural fault. -/
def ofFault : FaultKind → RefusalCode
  | .indentationMismatch => .indentationMismatch
  | .unknownPromptFormat => .unknownPromptFormat
  | .multipleExceptions => .multipleExceptions
  | .undefinedSelector => .undefinedSelector
  | .malformedSource => .malformedSource
  | .general => .doctestError

end RefusalCode

/-- A refusal, as the client is told. -/
structure Refusal where
  code : RefusalCode
  message : String
  details : List (String × Json) := []
deriving Repr

namespace Refusal

/-- The refusal of a text with a structural fault; its line is a detail. -/
def ofFault (f : Fault) : Refusal where
  code := .ofFault f.kind
  message := f.text
  details := f.line.toList.map fun n => ("line", .int n)

/-- A refusal as client data; details are left out if there are none. -/
def toJson (r : Refusal) : Json :=
  .obj ([("code", .str r.code.text), ("message", .str r.message)]
    ++ if r.details.isEmpty then [] else [("details", .obj r.details)])

end Refusal

/-- What cuts a request short: it is refused, or an exception escapes. -/
inductive Interruption where
  | refused (r : Refusal)
  | raised (e : Raised)
deriving Repr

/-- A fault refuses a request; if it cannot be written, the exception of that escapes. -/
def Interruption.ofFault : Except Raised Fault → Interruption
  | .ok f => .refused (.ofFault f)
  | .error e => .raised e

end DocExamples
