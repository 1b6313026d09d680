import DocExamples.Raised
import DocExamples.Text.Printable
import DocExamples.Text.Quoted

/-!
Tokens of a script, where they stand, and what can be wrong with a character of a script.
-/

namespace DocExamples.Script

/-! ### Tokens -/

/-- A place in a script: a line, counted from one, and the number of bytes in front of the place on
its line. -/
structure Position where
  line : Nat
  column : Nat
deriving DecidableEq, Repr

/-- The place behind a character. -/
def Position.next (p : Position) (c : Char) : Position :=
  if c = '\n' then ⟨p.line + 1, 0⟩ else ⟨p.line, p.column + c.utf8Size⟩

/-- A token of a script. -/
inductive Token where
  /-- A name or a reserved word. -/
  | name (s : String)
  | int (n : Nat)
  /-- A whole number of too many digits to be read. -/
  | hugeInt (digits : Nat)
  /-- A number that is not whole. -/
  | fraction
  | str (s : String)
  /-- A text of bytes. -/
  | bytes
  /-- A text with parts to fill in. -/
  | template
  /-- An operator, a bracket or any other mark. -/
  | mark (s : String)
  /-- The end of a logical line. -/
  | newline
  /-- The next line stands deeper than the line before. -/
  | indent
  /-- The next line stands less deep than the line before. -/
  | dedent
  /-- The end of the script. -/
  | finish
deriving DecidableEq, Repr

/-- A token, the place where it starts and the place behind it. -/
structure Placed where
  token : Token
  start : Position
  stop : Position
deriving DecidableEq, Repr

/-- The line that a token starts on. -/
def Placed.line (t : Placed) : Nat := t.start.line

/-- The words that are no names. -/
def reservedWords : List String :=
  ["False", "None", "True", "and", "as", "assert", "async", "await", "break", "class", "continue",
   "def", "del", "elif", "else", "except", "finally", "for", "from", "global", "if", "import", "in",
   "is", "lambda", "nonlocal", "not", "or", "pass", "raise", "return", "try", "while", "with",
   "yield"]

/-! ### Faults -/

/-- The kinds of numbers, as complaints about their digits name them. -/
inductive NumberKind where
  | decimal | imaginary | hexadecimal | octal | binary
deriving DecidableEq, Repr

/-- The name of a kind of number. -/
def NumberKind.name : NumberKind → String
  | .decimal => "decimal"
  | .imaginary => "imaginary"
  | .hexadecimal => "hexadecimal"
  | .octal => "octal"
  | .binary => "binary"

/-- What stops the reading of tokens. -/
inductive LexicalFault where
  /-- A string that starts on the first line is not closed on the second one. -/
  | unterminated (long : Bool) (line detected : Nat)
  /-- A bracket is closed that was not opened. -/
  | unmatched (closing : Char) (line : Nat)
  /-- A bracket is closed by a bracket of another kind. -/
  | mismatched (closing opening : Char) (line openedOn : Nat)
  /-- A character starts no token. -/
  | character (c : Char) (line : Nat)
  /-- A character stands in a number that cannot. -/
  | number (kind : NumberKind) (line : Nat)
  /-- A number has a digit that is too large for its kind. -/
  | digit (d : Char) (kind : NumberKind) (line : Nat)
  /-- A number starts with zeros that it does not need. -/
  | leadingZeros (line : Nat)
  /-- More brackets are open than can be. -/
  | nesting (line : Nat)
  /-- Something stands behind the mark that joins a line to the next one. -/
  | joint (line : Nat)
  /-- A line is joined to the next one, and there is none. -/
  | missingLine (line : Nat)
  /-- A line is less deep than the line before, and no line above is that deep. -/
  | depth (line : Nat)
  /-- How deep a line is depends on the width of tabs. -/
  | tabs (line : Nat)
  /-- Lines are deeper one after the other too often. -/
  | levels (line : Nat)
  /-- The script ends while a bracket is open. -/
  | unclosed (opening : Char) (line : Nat)
deriving DecidableEq, Repr

namespace LexicalFault

/-- The line that a fault is reported on. -/
def line : LexicalFault → Nat
  | .unterminated _ n _ => n
  | .unmatched _ n => n
  | .mismatched _ _ n _ => n
  | .character _ n => n
  | .number _ n => n
  | .digit _ _ n => n
  | .leadingZeros n => n
  | .nesting n => n
  | .joint n => n
  | .missingLine n => n
  | .depth n => n
  | .tabs n => n
  | .levels n => n
  | .unclosed _ n => n

/-- The upper case hexadecimal digits of a code point, at least four. -/
def codePointDigits (c : Char) : String :=
  let width := if c.toNat < 0x10000 then 4 else if c.toNat < 0x100000 then 5 else 6
  .ofList ((Text.hexDigits width c.toNat).map Char.toUpper)

/-- The wording of a fault. -/
def message : LexicalFault → String
  | .unterminated long _ n =>
    "unterminated " ++ (if long then "triple-quoted " else "")
      ++ "string literal (detected at line " ++ toString n ++ ")"
  | .unmatched closing _ => "unmatched '" ++ closing.toString ++ "'"
  | .mismatched closing opening line openedOn =>
    "closing parenthesis '" ++ closing.toString ++ "' does not match opening parenthesis '"
      ++ opening.toString ++ "'"
      ++ if line = openedOn then "" else " on line " ++ toString openedOn
  | .character c _ =>
    if Text.isPrintable c then
      "invalid character '" ++ c.toString ++ "' (U+" ++ codePointDigits c ++ ")"
    else "invalid non-printable character U+" ++ codePointDigits c
  | .number kind _ => "invalid " ++ kind.name ++ " literal"
  | .digit d kind _ => "invalid digit '" ++ d.toString ++ "' in " ++ kind.name ++ " literal"
  | .leadingZeros _ =>
    "leading zeros in decimal integer literals are not permitted; "
      ++ "use an 0o prefix for octal integers"
  | .nesting _ => "too many nested parentheses"
  | .joint _ => "unexpected character after line continuation character"
  | .missingLine _ => "unexpected EOF while parsing"
  | .depth _ => "unindent does not match any outer indentation level"
  | .tabs _ => "inconsistent use of tabs and spaces in indentation"
  | .levels _ => "too many levels of indentation"
  | .unclosed opening _ => "'" ++ opening.toString ++ "' was never closed"

/-- The class of the error that a fault is reported as. -/
def cls : LexicalFault → ExceptionClass
  | .depth _ | .levels _ => .builtin "IndentationError"
  | .tabs _ => .builtin "TabError"
  | _ => .builtin "SyntaxError"

/-- The fault is reported only if a reader comes upon it; another fault in front of it hides it. -/
def isQuiet : LexicalFault → Bool
  | .joint _ | .missingLine _ | .depth _ | .tabs _ | .levels _ | .unclosed .. => true
  | _ => false

end LexicalFault

end DocExamples.Script
