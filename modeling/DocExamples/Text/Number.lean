import DocExamples.Raised
import DocExamples.Text.Binary64

/-!
Numbers in messages.

Whole numbers are read and written up to a limited number of digits; a number with more digits
raises an exception instead of being written.
-/

namespace DocExamples.Text

/-! ### Digits -/

/-- The most decimal digits of a whole number that is read or written. -/
def mostDigits : Nat := 4300

/-- The wording of the complaint about a whole number of too many digits, with how many there are
where the number was read. -/
def tooManyDigitsMessage (digits : Option Nat) : String :=
  let count :=
    match digits with
    | some n => ": value has " ++ toString n ++ " digits"
    | none => ""
  "Exceeds the limit (" ++ toString mostDigits ++ " digits) for integer string conversion" ++ count
    ++ "; use sys.set_int_max_str_digits() to increase the limit"

/-- The complaint about a whole number that cannot be written. -/
def tooManyDigits : Raised := .builtin "ValueError" (tooManyDigitsMessage none)

/-- The number has too many digits to be written. -/
def hasTooManyDigits (n : Int) : Bool :=
  -- numbers of so few bits are told apart without the power of ten
  if n.natAbs.log2 < 3 * mostDigits then false
  else Binary64.powerOfTen mostDigits ≤ n.natAbs

/-- A whole number in decimal digits. -/
def digits (n : Int) : Except Raised String :=
  if hasTooManyDigits n then .error tooManyDigits else .ok (toString n)

/-! ### Groups of digits -/

/-- Decimal digits, the last one first, with a comma after every third one that another follows. -/
def groupThousands : List Char → List Char
  | a :: b :: c :: d :: rest => a :: b :: c :: ',' :: groupThousands (d :: rest)
  | digits => digits

/-- A whole number with its digits in groups of three. -/
def withThousands (n : Int) : String :=
  let digits := String.ofList (groupThousands (toString n.natAbs).toList.reverse).reverse
  if n < 0 then "-" ++ digits else digits

end DocExamples.Text
