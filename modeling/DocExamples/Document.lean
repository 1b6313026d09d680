import DocExamples.FileTree
import DocExamples.Refusal
import DocExamples.Text.Lines
import DocExamples.Text.Number
import DocExamples.Text.Utf8

/-!
Documents: a text that a client sends, or a file that it names.

A file wins over a text.  Its suffix, its existence, its encoding and its size are checked in this
order; every line end of a file is read as a line feed.
-/

namespace DocExamples

/-- What documents are accepted. -/
structure DocumentLimits where
  /-- Most characters of a document. -/
  maxSize : Int := 1000000
  /-- The suffixes of documents. -/
  suffixes : List String := [".md", ".markdown", ".txt", ".rst"]
deriving DecidableEq, Repr

/-- A document that was loaded. -/
structure Document where
  content : String
  /-- The path as it was given, or a name for a text. -/
  name : String
  path : Option String
deriving DecidableEq, Repr

namespace DocumentLimits

/-- The suffixes in alphabetical order. -/
def sortedSuffixes (limits : DocumentLimits) : List String :=
  limits.suffixes.eraseDups.mergeSort (· ≤ ·)

/-- A document of this size is refused. -/
def checkSize (limits : DocumentLimits) (what content : String) : Except Refusal Unit :=
  let size : Int := content.length
  if limits.maxSize < size then
    .error {
      code := .fileTooLarge
      message := what ++ " too large: " ++ Text.withThousands size ++ " bytes (max: "
        ++ Text.withThousands limits.maxSize ++ ")"
      details := [("size", .int size), ("max_size", .int limits.maxSize)] }
  else .ok ()

end DocumentLimits

namespace Document

/-- The name of a document that is no file. -/
def textName : String := "<text>"

/-- The wording of bytes that are no UTF-8. -/
def encodingMessage (f : Text.Utf8.Fault) : String :=
  let reason :=
    match f.reason with
    | .start => "invalid start byte"
    | .continuation => "invalid continuation byte"
    | .ending => "unexpected end of data"
  let what :=
    if f.count = 1 then
      "byte 0x" ++ .ofList (Text.hexDigits 2 f.first.toNat) ++ " in position "
        ++ toString f.position
    else
      "bytes in position " ++ toString f.position ++ "-" ++ toString (f.position + f.count - 1)
  "'utf-8' codec can't decode " ++ what ++ ": " ++ reason

/-- A path with this suffix is refused. -/
def checkSuffix (limits : DocumentLimits) (suffix : String) : Except Refusal Unit :=
  if limits.suffixes.contains suffix then .ok ()
  else
    .error {
      code := .invalidExtension
      message := "Only documentation files allowed (got "
        ++ (if suffix = "" then "no extension" else suffix) ++ ")"
      details := [("extension", .str suffix),
        ("allowed", Json.ofList .str limits.sortedSuffixes)] }

/-- The document of a file with the path and the bytes. -/
def ofBytes (limits : DocumentLimits) (path : String) (bytes : List UInt8) :
    Except Refusal Document :=
  match Text.Utf8.decode bytes with
  | .error fault =>
    .error { code := .internalError, message := "Error reading file: " ++ encodingMessage fault }
  | .ok chars => do
    let content := String.ofList (Text.unifyNewlines chars)
    limits.checkSize "File" content
    return ⟨content, path, some path⟩

/-- The error of a path that is too long to be looked up, which no refusal covers. -/
def tooLong (place : DocPath) : Raised :=
  .builtin "OSError" ("[Errno 36] File name too long: " ++ Text.quoted place.text)

/-- The document of a file. -/
def ofFile (limits : DocumentLimits) (tree : FileTree) (path : String) :
    Except Interruption Document := do
  let place := DocPath.ofText path
  (checkSuffix limits place.suffix).mapError .refused
  match tree.find place with
  | .tooLong => throw (.raised (tooLong place))
  | .nothing => throw (.refused { code := .fileNotFound, message := "File not found: " ++ path })
  | .directory =>
    throw (.refused { code := .validationError, message := "Path is not a file: " ++ path })
  | .file bytes => (ofBytes limits path bytes).mapError .refused

/-- The document of a text. -/
def ofText (limits : DocumentLimits) (text : String) : Except Refusal Document := do
  limits.checkSize "Text" text
  return ⟨text, textName, none⟩

/-- The document of a request; an empty path counts as none. -/
def load (limits : DocumentLimits) (tree : FileTree) (text path : Option String) :
    Except Interruption Document :=
  match path.filter (· ≠ ""), text with
  | some path, _ => ofFile limits tree path
  | none, some text => (ofText limits text).mapError .refused
  | none, none =>
    .error (.refused {
      code := .missingInput, message := "Please provide either 'file_path' or 'text'" })

end Document

end DocExamples
