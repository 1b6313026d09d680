import DocExamples.Text.Printable

/-!
Quoted texts.

A text is quoted with apostrophes, or with double quotes if it holds an apostrophe and no double
quote.  The backslash, the quote in use, tab, line feed and carriage return are escaped by a
backslash; any other unprintable character is written by its code point in lower case hexadecimal
digits, two after `\x`, four after `\u` or eight after `\U`.
-/

namespace DocExamples.Text

/-- The lower case hexadecimal digit of a value below sixteen. -/
def hexDigit (n : Nat) : Char := Nat.digitChar (n % 16)

/-- The last `width` hexadecimal digits of a number, with leading zeros. -/
def hexDigits : Nat → Nat → List Char
  | 0, _ => []
  | width + 1, n => hexDigits width (n / 16) ++ [hexDigit n]

/-- The quote that encloses a text. -/
def quoteFor (cs : List Char) : Char :=
  if '\'' ∈ cs ∧ '"' ∉ cs then '"' else '\''

/-- The code point of a character behind a backslash. -/
def codePoint (c : Char) : List Char :=
  if c.toNat < 0x100 then '\\' :: 'x' :: hexDigits 2 c.toNat
  else if c.toNat < 0x10000 then '\\' :: 'u' :: hexDigits 4 c.toNat
  else '\\' :: 'U' :: hexDigits 8 c.toNat

/-- A character inside a text enclosed by `quote`. -/
def quoteChar (quote c : Char) : List Char :=
  if c = quote ∨ c = '\\' then ['\\', c]
  else if c = '\n' then ['\\', 'n']
  else if c = '\r' then ['\\', 'r']
  else if c = '\t' then ['\\', 't']
  else if isPrintable c then [c]
  else codePoint c

/-- The text between quotes, with everything escaped that a reader could mistake. -/
def quoteChars (cs : List Char) : List Char :=
  quoteFor cs :: cs.flatMap (quoteChar (quoteFor cs)) ++ [quoteFor cs]

/-- The quoted form of a text. -/
def quoted (s : String) : String := .ofList (quoteChars s.toList)

end DocExamples.Text
