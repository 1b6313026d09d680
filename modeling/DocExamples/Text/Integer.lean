import DocExamples.Text.Digit
import DocExamples.Text.Number
import DocExamples.Text.Quoted

/-!
Reading a whole number from text.

Around the number white space is skipped; a sign may precede it; its digits are decimal digits of
any script, and single underscores may stand between them.  In a number system above ten the digits
go on with ASCII letters, and a mark of the number system may stand in front of the digits.  More
than `mostDigits` digits are refused unless the system is one of the powers of two; that refusal
comes before any complaint about what follows the digits.
-/

namespace DocExamples.Text

/-! ### Faults -/

/-- Why a text is no whole number. -/
inductive IntegerFault where
  /-- The text has another form. -/
  | invalid (radix : Nat) (text : String)
  /-- The text has too many digits. -/
  | tooLong (digits : Nat)
deriving DecidableEq, Repr

/-- The wording of a refusal; the quoted text is cut after 200 characters. -/
def IntegerFault.message : IntegerFault → String
  | .invalid radix text =>
    "invalid literal for int() with base " ++ toString radix ++ ": "
      ++ .ofList ((quoteChars text.toList).take 200)
  | .tooLong digits => tooManyDigitsMessage (some digits)

/-! ### Digits -/

/-- White space around a number: in ASCII only tab to carriage return and the space. -/
def isIntegerBlank (c : Char) : Bool :=
  isBlank c && !(0x1C ≤ c.toNat && c.toNat ≤ 0x1F)

/-- The value of a digit: a decimal digit or an ASCII letter. -/
def digitValue? (c : Char) : Option Nat :=
  if 'a' ≤ c ∧ c ≤ 'z' then some (c.toNat - 'a'.toNat + 10)
  else if 'A' ≤ c ∧ c ≤ 'Z' then some (c.toNat - 'A'.toNat + 10)
  else decimalValue? c

/-- The value of a digit of a number system. -/
def digitBelow? (radix : Nat) (c : Char) : Option Nat := (digitValue? c).filter (· < radix)

/-- A run of digits with single underscores between them: the digit values, the last one first,
and the rest of the text.  `none` if an underscore has no digit on both sides. -/
def digitRun (radix : Nat) (values : List Nat) : List Char → Option (List Nat × List Char)
  | [] => some (values, [])
  | '_' :: c :: rest =>
    match values, digitBelow? radix c with
    | _ :: _, some v => digitRun radix (v :: values) rest
    | _, _ => none
  | c :: rest =>
    match digitBelow? radix c with
    | some v => digitRun radix (v :: values) rest
    | none => if c = '_' then none else some (values, c :: rest)

/-- The number whose digits are given, the last one first. -/
def ofDigitsRev (radix : Nat) : List Nat → Nat
  | [] => 0
  | v :: rest => v + radix * ofDigitsRev radix rest

/-! ### Numbers -/

/-- The sign in front of a number, and the text behind it. -/
def takeSign : List Char → Int × List Char
  | '-' :: rest => (-1, rest)
  | '+' :: rest => (1, rest)
  | cs => (1, cs)

/-- The number system that a letter behind a zero marks. -/
def markedRadix? (c : Char) : Option Nat :=
  if c = 'x' ∨ c = 'X' then some 16
  else if c = 'o' ∨ c = 'O' then some 8
  else if c = 'b' ∨ c = 'B' then some 2
  else none

/-- The number system and the text of the digits, where zero asks for the system that a mark gives.
Without a mark that is the decimal one, in which such a number starts with no zero, or is zero. -/
def takeMark (radix : Nat) (body : List Char) : Nat × List Char :=
  let marked :=
    match body with
    | '0' :: c :: rest =>
      (markedRadix? c).bind fun r => if radix = 0 ∨ radix = r then some (r, rest) else none
    | _ => none
  match marked with
  | some (r, '_' :: rest) => (r, rest)
  | some (r, rest) => (r, rest)
  | none => (if radix = 0 then 10 else radix, body)

/-- Numbers in this system may have any number of digits. -/
def isPowerOfTwo (radix : Nat) : Bool := [2, 4, 8, 16, 32].contains radix

/-- The whole number that a text writes in a number system; zero stands for the system that the
text itself marks. -/
def readIntegerIn (radix : Nat) (s : String) : Except IntegerFault Int :=
  let (sign, body) := takeSign (s.toList.dropWhile isIntegerBlank)
  let (system, body) := takeMark radix body
  match digitRun system [] body with
  | none => .error (.invalid radix s)
  | some (values, rest) =>
    let n := ofDigitsRev system values
    if mostDigits < values.length ∧ !isPowerOfTwo system then .error (.tooLong values.length)
    else if values.isEmpty || !rest.all isIntegerBlank then .error (.invalid radix s)
    else if radix = 0 ∧ system = 10 ∧ values.getLast? = some 0 ∧ n ≠ 0 then
      .error (.invalid radix s)
    else .ok (sign * n)

/-- The whole number that a text writes in decimal digits. -/
def readInteger (s : String) : Except IntegerFault Int := readIntegerIn 10 s

end DocExamples.Text
