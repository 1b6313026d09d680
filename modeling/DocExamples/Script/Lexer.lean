import DocExamples.Script.Escape
import DocExamples.Script.Token
import DocExamples.Text.Lines
import DocExamples.Text.NameChar
import DocExamples.Text.NormalForm
import DocExamples.Text.Number

/-!
The reading of tokens.

A machine reads a script character by character and cuts it into logical lines of tokens.  A line
feed ends a logical line unless a bracket is open or a backslash stands in front of it; blank lines
and lines that hold only a comment are no logical lines.  The machine stops at the first character
that it cannot read.
-/

namespace DocExamples.Script

/-- How deep a line stands: its columns with wide tabs and with narrow ones. -/
structure Depth where
  wide : Nat := 0
  narrow : Nat := 0
deriving DecidableEq, Repr

/-- The depth behind a character of white space. -/
def Depth.next (d : Depth) (c : Char) : Depth :=
  if c = '\t' then ⟨(d.wide / 8 + 1) * 8, d.narrow + 1⟩
  else if c = '\x0c' then {}
  else ⟨d.wide + 1, d.narrow + 1⟩

/-- A logical line. -/
structure LogicalLine where
  depth : Depth
  tokens : List Placed
  /-- The place of the line end. -/
  stop : Position
deriving DecidableEq, Repr

/-! ### Modes -/

/-- What a text holds. -/
inductive QuotedKind where
  | plain | bytes | template
deriving DecidableEq, Repr

/-- How a text is written. -/
structure Quoting where
  quote : Char
  kind : QuotedKind := .plain
  /-- Three quotes stand at each end. -/
  long : Bool := false
  /-- A backslash stands for itself. -/
  raw : Bool := false
deriving DecidableEq, Repr

/-- The part of a number that is being read. -/
inductive NumberPart where
  | zeros
  /-- Digits behind leading zeros. -/
  | padded
  | decimal
  | based (kind : NumberKind)
  /-- Behind the decimal point. -/
  | point
  | fraction
  | exponent
  | imaginary
deriving DecidableEq, Repr

/-- The kind of number that a part belongs to. -/
def NumberPart.kind : NumberPart → NumberKind
  | .based kind => kind
  | .imaginary => .imaginary
  | _ => .decimal

/-- What a number still needs. -/
inductive NumberGap where
  | none
  /-- A digit, in front of which an underscore may stand. -/
  | digits
  | digit
deriving DecidableEq, Repr

/-- What the machine is in the middle of; collected characters have the last one first. -/
inductive Lexing where
  /-- In front of the first token of a line; once a backslash stood there, the depth is fixed. -/
  | lineStart (fixed : Bool)
  /-- Behind a backslash in front of the first token of a line. -/
  | jointAtStart
  /-- Behind the line end that follows such a backslash. -/
  | joinedAtStart
  /-- Between two tokens of a logical line. -/
  | between
  | comment
  /-- Behind a backslash that joins a line to the next one. -/
  | joint
  /-- At the start of a line that is joined to the line before. -/
  | joined
  | name (read : List Char)
  | number (part : NumberPart) (gap : NumberGap) (read : List Char)
  /-- Behind the letter of an exponent. -/
  | exponentMark (part : NumberPart) (read : List Char) (letter : Char)
  /-- In a word that follows a number without a space. -/
  | wordBehindNumber (kind : NumberKind) (read : List Char)
  /-- Behind one point or two. -/
  | points (count : Nat)
  | mark (read : List Char)
  /-- Behind one or two quotes that open a text. -/
  | opening (q : Quoting) (count : Nat)
  /-- In a text, where the next character may be escaped and some quotes of the end were read. -/
  | text (q : Quoting) (read : List Char) (escaped : Bool) (closing : Nat)
deriving DecidableEq, Repr

/-- Where the machine stands; lists have the last item first. -/
structure Lexer where
  lines : List LogicalLine := []
  tokens : List Placed := []
  /-- How deep the logical line stands. -/
  depth : Depth := {}
  /-- The open brackets and the lines that they stand on. -/
  brackets : List (Char × Nat) := []
  /-- The place of the next character. -/
  here : Position := ⟨1, 0⟩
  /-- The place where the token being read starts. -/
  start : Position := ⟨1, 0⟩
  mode : Lexing := .lineStart false
  fault : Option LexicalFault := none
deriving DecidableEq, Repr

namespace Lexer

/-! ### Tokens -/

/-- Take up a token that stands between two places. -/
def emitAt (t : Token) (start stop : Position) (l : Lexer) : Lexer :=
  { l with tokens := ⟨t, start, stop⟩ :: l.tokens, mode := .between }

/-- Take up a token that ends in front of the next character. -/
def emit (t : Token) (l : Lexer) : Lexer := l.emitAt t l.start l.here

/-- Take up a token that the character `c` is the last one of. -/
def emitThrough (t : Token) (c : Char) (l : Lexer) : Lexer := l.emitAt t l.start (l.here.next c)

/-- Start to read a token. -/
def enter (mode : Lexing) (l : Lexer) : Lexer := { l with start := l.here, mode := mode }

/-- Stop. -/
def stop (fault : LexicalFault) (l : Lexer) : Lexer := { l with fault := some fault }

/-- The place of the last character, if it is one byte wide. -/
def before (l : Lexer) : Position := ⟨l.here.line, l.here.column - 1⟩

/-- Read a line feed. -/
def newline (l : Lexer) : Lexer :=
  if !l.brackets.isEmpty then { l with mode := .between }
  else if l.tokens.isEmpty then { l with depth := {}, mode := .lineStart false }
  else
    { l with
      lines := ⟨l.depth, l.tokens.reverse, l.here⟩ :: l.lines
      tokens := [], depth := {}, mode := .lineStart false }

/-! ### Brackets and marks -/

/-- The bracket that a closing bracket closes. -/
def opening? : Char → Option Char
  | ')' => some '('
  | ']' => some '['
  | '\x7d' => some '\x7b'
  | _ => none

/-- The most brackets that may be open. -/
def deepest : Nat := 200

/-- Read an opening bracket. -/
def openBracket (c : Char) (l : Lexer) : Lexer :=
  if deepest ≤ l.brackets.length then l.stop (.nesting l.here.line)
  else { l.emitThrough (.mark c.toString) c with brackets := (c, l.here.line) :: l.brackets }

/-- Read a closing bracket. -/
def closeBracket (closing opening : Char) (l : Lexer) : Lexer :=
  match l.brackets with
  | [] => l.stop (.unmatched closing l.here.line)
  | (open', openedOn) :: rest =>
    if open' = opening then { l.emitThrough (.mark closing.toString) closing with brackets := rest }
    else l.stop (.mismatched closing open' l.here.line openedOn)

/-- The marks of more than one character. -/
def longMarks : List String :=
  ["!=", "%=", "&=", "**", "*=", "+=", "-=", "->", "//", "/=", ":=", "<<", "<=", "<>", "==", ">=",
   ">>", "@=", "^=", "|=", "**=", "//=", "<<=", ">>="]

/-- A mark of more than one character may start with the character. -/
def startsLongMark (c : Char) : Bool := longMarks.any (·.toList.head? = some c)

/-! ### Numbers -/

/-- A character that a number in the number system of a kind is made of. -/
def isDigitOf (kind : NumberKind) (c : Char) : Bool :=
  match kind with
  | .hexadecimal => (digitValue? 16 c).isSome
  | .octal => (digitValue? 8 c).isSome
  | .binary => (digitValue? 2 c).isSome
  | _ => c.isDigit

/-- The kind of number that a letter behind a zero announces. -/
def basedKind? (c : Char) : Option NumberKind :=
  if c = 'x' ∨ c = 'X' then some .hexadecimal
  else if c = 'o' ∨ c = 'O' then some .octal
  else if c = 'b' ∨ c = 'B' then some .binary
  else none

/-- The whole number that digits write; underscores between them are skipped. -/
def wholeNumber (digits : List Char) : Token :=
  let digits := digits.filter Char.isDigit
  if Text.mostDigits < digits.length then .hugeInt digits.length else .int (numberOf 10 digits)

/-- The number whose characters were read. -/
def numberToken (part : NumberPart) (read : List Char) : Token :=
  match part with
  | .zeros => .int 0
  | .padded | .decimal => wholeNumber read.reverse
  | .based kind =>
    let digits := (read.reverse.drop 2).filter (· ≠ '_')
    .int (numberOf (match kind with | .hexadecimal => 16 | .octal => 8 | _ => 2) digits)
  | _ => .fraction

/-- The words that may follow a number without a space. -/
def wordsBehindNumbers : List String := ["and", "else", "for", "not", "or"]

/-- The words that may follow a number without a space and be followed by anything. -/
def shortWordsBehindNumbers : List String := ["if", "in", "is"]

/-- Read on in a word behind a number, of which some characters were read. -/
def stepWordBehindNumber (kind : NumberKind) (read : List Char) (l : Lexer) : Lexer :=
  let word := read.reverse
  if shortWordsBehindNumbers.any (·.toList = word) then { l with mode := .name read }
  else if (shortWordsBehindNumbers ++ wordsBehindNumbers).any fun w => word.isPrefixOf w.toList then
    { l with mode := .wordBehindNumber kind read }
  else l.stop (.number kind l.here.line)

/-- A character that words are made of, whether or not a name may hold it. -/
def isWordPart (c : Char) : Bool := c.isAlphanum || c = '_' || 128 ≤ c.toNat

/-! ### Texts and names -/

/-- What a text behind a letter holds. -/
def quotedKind? (letter : Char) : Option QuotedKind :=
  if letter = 'b' then some .bytes else if letter = 'f' then some .template else none

/-- How a text behind letters is written. -/
def quoting? (letters : List Char) (quote : Char) : Option Quoting :=
  match letters.map Char.toLower with
  | [] => some { quote := quote }
  | [c] =>
    if c = 'u' then some { quote := quote }
    else if c = 'r' then some { quote := quote, raw := true }
    else (quotedKind? c).map fun kind => { quote := quote, kind := kind }
  | [c, d] =>
    if c = 'r' then (quotedKind? d).map fun kind => { quote := quote, kind := kind, raw := true }
    else if d = 'r' then
      (quotedKind? c).map fun kind => { quote := quote, kind := kind, raw := true }
    else none
  | _ => none

/-- The text whose characters were read. -/
def textToken (q : Quoting) (read : List Char) : Token :=
  match q.kind with
  | .plain => .str (.ofList (if q.raw then read.reverse else unescape read.reverse))
  | .bytes => .bytes
  | .template => .template

/-- Read a character of a text. -/
def stepText (q : Quoting) (read : List Char) (escaped : Bool) (closing : Nat) (c : Char)
    (l : Lexer) : Lexer :=
  if escaped then { l with mode := .text q (c :: read) false 0 }
  else if c = '\n' ∧ !q.long then l.stop (.unterminated false l.start.line l.here.line)
  else if c = '\\' then { l with mode := .text q (c :: read) true 0 }
  else if c ≠ q.quote then { l with mode := .text q (c :: read) false 0 }
  else if !q.long then l.emitThrough (textToken q read) c
  else if closing = 2 then l.emitThrough (textToken q (read.drop 2)) c
  else { l with mode := .text q (c :: read) false (closing + 1) }

/-- The first character of a name that it cannot hold. -/
def misfit? : List Char → Option Char
  | [] => none
  | c :: rest => if Text.startsName c then rest.find? (!Text.continuesName ·) else some c

/-- Take up the name whose characters were read. -/
def emitName (read : List Char) (l : Lexer) : Lexer :=
  match misfit? read.reverse with
  | some c => l.stop (.character c l.here.line)
  | none => l.emit (.name (Text.normalForm (.ofList read.reverse)))

/-! ### The machine -/

/-- Read a character where a token may start. -/
def startToken (c : Char) (l : Lexer) : Lexer :=
  if c = '\n' then l.newline
  else if c = ' ' ∨ c = '\t' ∨ c = '\x0c' then { l with mode := .between }
  else if c = '#' then { l with mode := .comment }
  else if c = '\\' then { l with mode := .joint }
  else if c = '\'' ∨ c = '"' then l.enter (.opening { quote := c } 1)
  else if c.isDigit then l.enter (.number (if c = '0' then .zeros else .decimal) .none [c])
  else if isWordPart c then l.enter (.name [c])
  else if c = '.' then l.enter (.points 1)
  else if startsLongMark c then l.enter (.mark [c])
  else
    let l := { l with start := l.here }
    if c = '(' ∨ c = '[' ∨ c = '\x7b' then l.openBracket c
    else
      match opening? c with
      | some opening => l.closeBracket c opening
      | none =>
        if Text.isPrintable c then l.emitThrough (.mark c.toString) c
        else l.stop (.character c l.here.line)

/-- Read on behind the last character of a token. -/
def startBehind (c : Char) (l : Lexer) : Lexer := if l.fault.isSome then l else l.startToken c

/-- Read a character behind the last one of a number. -/
def endNumber (part : NumberPart) (read : List Char) (c : Char) (l : Lexer) : Lexer :=
  let behind := l.emit (numberToken part read)
  if part = .padded then l.stop (.leadingZeros l.here.line)
  else if isWordPart c ∧ c.toNat < 128 then
    stepWordBehindNumber part.kind [c] { behind with start := l.here }
  else behind.startToken c

/-- Read a character of a number. -/
def stepNumber (part : NumberPart) (gap : NumberGap) (read : List Char) (c : Char) (l : Lexer) :
    Lexer :=
  let goOn (part : NumberPart) (gap : NumberGap) : Lexer :=
    { l with mode := .number part gap (c :: read) }
  let digit : NumberPart :=
    match part with
    | .zeros => if c = '0' then .zeros else .padded
    | .point => .fraction
    | part => part
  match part, gap with
  | .based kind, gap =>
    if isDigitOf kind c then goOn part .none
    else if c = '_' ∧ gap ≠ .digit then goOn part .digit
    else if c.isDigit then l.stop (.digit c kind l.here.line)
    else if gap = .none then l.endNumber part read c
    else l.stop (.number kind l.here.line)
  | .imaginary, _ => l.endNumber part read c
  | part, .none =>
    if c.isDigit then goOn digit .none
    else if c = '_' ∧ part ≠ .point then goOn part .digit
    else if (c = 'e' ∨ c = 'E') ∧ part ≠ .exponent then { l with mode := .exponentMark part read c }
    else if c = 'j' ∨ c = 'J' then goOn .imaginary .none
    else if c = '.' ∧ (part = .zeros ∨ part = .padded ∨ part = .decimal) then goOn .point .none
    else
      match if part = .zeros ∧ read.length = 1 then basedKind? c else none with
      | some kind => goOn (.based kind) .digits
      | none => l.endNumber part read c
  | _, _ =>
    if c.isDigit then goOn digit .none else l.stop (.number .decimal l.here.line)

/-- Read a character behind the letter of an exponent. -/
def stepExponent (part : NumberPart) (read : List Char) (letter c : Char) (l : Lexer) : Lexer :=
  if c.isDigit then { l with mode := .number .exponent .none (c :: letter :: read) }
  else if c = '+' ∨ c = '-' then { l with mode := .number .exponent .digit (c :: letter :: read) }
  else if letter = 'e' then
    let number := l.emitAt (numberToken part read) l.start l.before
    stepWordBehindNumber .decimal [c, letter] { number with start := l.before }
  else l.stop (.number .decimal l.here.line)

/-- Read a character behind one point or two. -/
def stepPoints (count : Nat) (c : Char) (l : Lexer) : Lexer :=
  let point : Token := .mark "."
  if count = 1 then
    if c.isDigit then { l with mode := .number .fraction .none [c, '.'] }
    else if c = '.' then { l with mode := .points 2 }
    else (l.emit point).startToken c
  else if c = '.' then l.emitThrough (.mark "...") c
  else
    let l := { l.emitAt point l.start l.before with start := l.before }
    if c.isDigit then { l with mode := .number .fraction .none [c, '.'] }
    else (l.emit point).startToken c

/-- Read a character behind quotes that open a text. -/
def stepOpening (q : Quoting) (count : Nat) (c : Char) (l : Lexer) : Lexer :=
  if count = 1 then
    if c = q.quote then { l with mode := .opening q 2 } else l.stepText q [] false 0 c
  else if c = q.quote then { l with mode := .text { q with long := true } [] false 0 }
  else (l.emit (textToken q [])).startToken c

/-- Read a character of a name, or behind it. -/
def stepName (read : List Char) (c : Char) (l : Lexer) : Lexer :=
  if isWordPart c then { l with mode := .name (c :: read) }
  else
    match if c = '\'' ∨ c = '"' then quoting? read.reverse c else none with
    | some q => { l with mode := .opening q 1 }
    | none => (l.emitName read).startBehind c

/-- Read a character in front of the first token of a line.  The depth of a line that goes on behind
a backslash is the one in front of the first backslash, unless there is none. -/
def stepLineStart (fixed : Bool) (c : Char) (l : Lexer) : Lexer :=
  if c = ' ' ∨ c = '\t' ∨ c = '\x0c' then
    { l with depth := if fixed then l.depth else l.depth.next c, mode := .lineStart fixed }
  else if c = '\\' then { l with depth := ⟨l.depth.wide, l.depth.wide⟩, mode := .jointAtStart }
  else startToken c { l with mode := .between }

/-- Read one character in the mode that the machine is in. -/
def read (l : Lexer) (c : Char) : Lexer :=
  match l.mode with
  | .lineStart fixed => l.stepLineStart fixed c
  | .joinedAtStart => l.stepLineStart (l.depth ≠ {}) c
  | .jointAtStart =>
    if c = '\n' then { l with mode := .joinedAtStart } else l.stop (.joint l.here.line)
  | .between | .joined => l.startToken c
  | .comment => if c = '\n' then l.newline else l
  | .joint => if c = '\n' then { l with mode := .joined } else l.stop (.joint l.here.line)
  | .name read => l.stepName read c
  | .number part gap read => l.stepNumber part gap read c
  | .exponentMark part read letter => l.stepExponent part read letter c
  | .wordBehindNumber kind read =>
    if wordsBehindNumbers.any (·.toList = read.reverse) ∧ !isWordPart c then l.stepName read c
    else stepWordBehindNumber kind (c :: read) l
  | .points count => l.stepPoints count c
  | .mark read =>
    if longMarks.any (·.toList = (c :: read).reverse) then { l with mode := .mark (c :: read) }
    else (l.emit (.mark (.ofList read.reverse))).startToken c
  | .opening q count => l.stepOpening q count c
  | .text q read escaped closing => l.stepText q read escaped closing c

/-- Read one character, unless something stopped the machine. -/
def step (l : Lexer) (c : Char) : Lexer :=
  if l.fault.isSome then l else { l.read c with here := l.here.next c }

/-- The machine behind some characters. -/
def readAll (l : Lexer) (cs : List Char) : Lexer := cs.foldl step l

/-- The end of the script: an open text or bracket is a fault. -/
def finish (l : Lexer) : Lexer :=
  let lastLine := l.here.line - 1
  match l.fault, l.mode, l.brackets with
  | some _, _, _ => l
  | none, .text q .., _ => l.stop (.unterminated q.long l.start.line lastLine)
  | none, _, (opening, n) :: _ => l.stop (.unclosed opening n)
  | none, .joined, [] | none, .joinedAtStart, [] => l.stop (.missingLine lastLine)
  | none, _, [] => l

end Lexer

/-- The machine behind a whole script, whose last line is ended by a line feed. -/
def tokenize (source : String) : Lexer :=
  let cs := Text.unifyNewlines source.toList
  (Lexer.readAll {} (if cs.getLast? = some '\n' then cs else cs ++ ['\n'])).finish

end DocExamples.Script
