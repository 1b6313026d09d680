import DocExamples.Value.Operators

/-!
Raising exceptions.

An exception is made from its class and its arguments, which decide about its message.  Some classes
ask for certain arguments, and some take a number of the operating system for the kind of error.
-/

namespace DocExamples

open Value

/-- The message of an exception whose class does not care for its arguments: a single argument is
the message itself; several are shown as a tuple. -/
def Raised.plainMessage (h : Heap) : List Value → Except Raised String
  | [] => .ok ""
  | [arg] => arg.plain h
  | args => shownTogether h args

/-! ### Errors of the operating system -/

/-- The classes of errors by their numbers. -/
def ExceptionClass.systemErrors : List (Int × String) :=
  [(1, "PermissionError"), (2, "FileNotFoundError"), (3, "ProcessLookupError"),
   (4, "InterruptedError"), (10, "ChildProcessError"), (11, "BlockingIOError"),
   (13, "PermissionError"), (17, "FileExistsError"), (20, "NotADirectoryError"),
   (21, "IsADirectoryError"), (32, "BrokenPipeError"), (103, "ConnectionAbortedError"),
   (104, "ConnectionResetError"), (108, "BrokenPipeError"), (110, "TimeoutError"),
   (111, "ConnectionRefusedError"), (114, "BlockingIOError"), (115, "BlockingIOError")]

/-- The classes of errors that have a number. -/
def ExceptionClass.systemClasses : List String :=
  ["OSError", "BlockingIOError", "BrokenPipeError", "ChildProcessError", "ConnectionAbortedError",
   "ConnectionError", "ConnectionRefusedError", "ConnectionResetError", "FileExistsError",
   "FileNotFoundError", "InterruptedError", "IsADirectoryError", "NotADirectoryError",
   "PermissionError", "ProcessLookupError", "TimeoutError"]

/-- The class of an error with a number. -/
def ExceptionClass.ofSystemError (cls : ExceptionClass) (number : Value) : ExceptionClass :=
  if cls = .builtin "OSError" then
    match number.int?.bind fun n => ExceptionClass.systemErrors.lookup n with
    | some name => .builtin name
    | Option.none => cls
  else cls

/-- The message of an error with a number, a text and the files that it is about.  There is no
second file without a first one. -/
def Raised.systemMessage (h : Heap) (number text : Value) (files : List Value) :
    Except Raised String := do
  let front := "[Errno " ++ (← number.plain h) ++ "] " ++ (← text.plain h)
  match files with
  | [] | .none :: _ => return front
  | [file] | [file, _] | [file, _, .none] => return front ++ ": " ++ (← file.shown h)
  | file :: _ :: other :: _ =>
    return front ++ ": " ++ (← file.shown h) ++ " -> " ++ (← other.shown h)

/-- The complaint about a number that is too large to count characters. -/
def tooLargeToCount {α : Type} : Except Raised α :=
  .error (.builtin "ValueError" exceedsIndexMessage)

/-- The error of the operating system that is raised with a number, a text and files.  If the system
was to write without waiting, a number in place of the file counts the characters written. -/
def Raised.ofSystem (h : Heap) (cls : ExceptionClass) (number text : Value)
    (files : List Value) : Except Raised Raised := do
  let cls := cls.ofSystemError number
  match if cls = .builtin "BlockingIOError" then files.head?.bind Value.int? else Option.none with
  | some n =>
    if exceedsIndex n then tooLargeToCount
    else return ⟨cls, ← systemMessage h number text []⟩
  | Option.none => return ⟨cls, ← systemMessage h number text files⟩

/-! ### Arguments of one kind -/

/-- The complaint about the wrong number of arguments; the bound says how it was missed. -/
def wrongCount {α : Type} (subject bound : String) (expected given : Nat) : Except Raised α :=
  typeError (subject ++ " takes " ++ bound ++ " " ++ toString expected ++ " arguments ("
    ++ toString given ++ " given)")

/-- The text that is asked for as the argument of a number. -/
def textArgument (h : Heap) (subject : String) (position : Nat) : Value → Except Raised String
  | .str s => .ok s
  | v =>
    typeError (subject ++ "argument " ++ toString position ++ " must be str, not "
      ++ if v = .none then "None" else v.typeName h)

/-- The place in a text that is asked for as an argument. -/
def placeArgument (h : Heap) (v : Value) : Except Raised Int :=
  match v.int? with
  | some n =>
    if exceedsIndex n then
      .error (.builtin "OverflowError" "Python int too large to convert to C ssize_t")
    else .ok n
  | Option.none =>
    typeError (Text.quoted (v.typeName h) ++ " object cannot be interpreted as an integer")

/-! ### Errors of a source -/

/-- The classes of errors that know a place in a source. -/
def ExceptionClass.sourceClasses : List String := ["SyntaxError", "IndentationError", "TabError"]

/-- The last name of a path. -/
def lastName (path : String) : String :=
  .ofList (path.toList.reverse.takeWhile (· ≠ '/')).reverse

/-- A line as it is written into a message; one that is too large is written as minus one. -/
def lineText (n : Int) : String := toString (if exceedsIndex n then -1 else n)

/-- The message of an error of a source, with what is known about its place. -/
def Raised.placedMessage (h : Heap) (message file line : Value) : Except Raised String := do
  let text ← message.plain h
  match file, line with
  | .str path, .int n => return text ++ " (" ++ lastName path ++ ", line " ++ lineText n ++ ")"
  | .str path, _ => return text ++ " (" ++ lastName path ++ ")"
  | _, .int n => return text ++ " (line " ++ lineText n ++ ")"
  | _, _ => return text

/-- The message of an error of a source; the second of two arguments tells the place. -/
def Raised.sourceMessage (h : Heap) : List Value → Except Raised String
  | [message, place] => do
    match ← place.items h with
    | [file, line, _, _] | [file, line, _, _, _, _] => placedMessage h message file line
    | [_, _, _, _, _] => typeError "end_offset must be provided when end_lineno is provided"
    | details =>
      if details.length < 4 then wrongCount "function" "at least" 4 details.length
      else wrongCount "function" "at most" 6 details.length
  | args => (args.headD .none).plain h

/-! ### Groups of exceptions -/

/-- The classes of groups of exceptions. -/
def ExceptionClass.groupClasses : List String := ["ExceptionGroup", "BaseExceptionGroup"]

/-- The complaint about the arguments of a group: no value is an exception that it could hold. -/
def Raised.groupMessage (h : Heap) (args : List Value) : Except Raised String := do
  let subject := "BaseExceptionGroup.__new__()"
  match args with
  | [message, members] =>
    let _ ← textArgument h (subject ++ " ") 1 message
    let refused {α : Type} (complaint : String) : Except Raised α :=
      .error (.builtin "ValueError" complaint)
    if !members.isSequence h then typeError "second argument (exceptions) must be a sequence"
    else if (← members.length h) = 0 then
      refused "second argument (exceptions) must be a non-empty sequence"
    else refused "Item 0 of second argument (exceptions) is not an exception"
  | args => wrongCount subject "exactly" 2 args.length

/-! ### Errors of an encoding -/

/-- The message about the characters of a text from one place up to another one. -/
def Raised.charactersMessage (front text reason : String) (first stop : Int) : String :=
  front ++
    (match text.toList[first.toNat]?, decide (stop = first + 1) with
      | some c, true =>
        " character '" ++ .ofList (Text.codePoint c) ++ "' in position " ++ toString first
      | _, _ => " characters in position " ++ toString first ++ "-" ++ toString (stop - 1))
    ++ ": " ++ reason

/-- The message of an error of an encoding.  There are no bytes that could be decoded. -/
def Raised.encodingMessage (h : Heap) (decoding : Bool) :
    List Value → Except Raised String
  | [encoding, given, first, stop, reason] => do
    let encoding ← textArgument h "" 1 encoding
    let text ← if decoding then pure "" else textArgument h "" 2 given
    let first ← placeArgument h first
    let stop ← placeArgument h stop
    let reason ← textArgument h "" 5 reason
    if decoding then
      typeError ("a bytes-like object is required, not " ++ Text.quoted (given.typeName h))
    else
      return charactersMessage ("'" ++ encoding ++ "' codec can't encode") text reason first stop
  | args => wrongCount "function" "exactly" 5 args.length

/-- The message of an error in mapping characters to others. -/
def Raised.mappingMessage (h : Heap) : List Value → Except Raised String
  | [text, first, stop, reason] => do
    let text ← textArgument h "" 1 text
    let first ← placeArgument h first
    let stop ← placeArgument h stop
    let reason ← textArgument h "" 4 reason
    return charactersMessage "can't translate" text reason first stop
  | args => wrongCount "function" "exactly" 4 args.length

/-! ### All classes -/

/-- The message of an exception that is no error of the operating system. -/
def Raised.messageOf (h : Heap) (base : String) (args : List Value) : Except Raised String :=
  if base = "KeyError" ∧ args.length = 1 then (args.headD .none).shown h
  else if ExceptionClass.sourceClasses.contains base then sourceMessage h args
  else if ExceptionClass.groupClasses.contains base then groupMessage h args
  else if base = "UnicodeEncodeError" then encodingMessage h false args
  else if base = "UnicodeDecodeError" then encodingMessage h true args
  else if base = "UnicodeTranslateError" then mappingMessage h args
  else plainMessage h args

/-- The exception of a class that is raised with arguments. -/
def Raised.ofArguments (h : Heap) (cls : ExceptionClass) (args : List Value) :
    Except Raised Raised := do
  match ExceptionClass.systemClasses.contains cls.base, args with
  | true, number :: text :: files =>
    if files.length ≤ 3 then ofSystem h cls number text files
    else return ⟨cls, ← messageOf h cls.base args⟩
  | _, args => return ⟨cls, ← messageOf h cls.base args⟩

end DocExamples
