/-!
Floating-point numbers.

The text of a number stands for the binary number with 53 significant bits that is nearest to it;
of two that are equally near, for the one whose last bit is zero.  Numbers are kept exactly, as a
whole number times a power of two.
-/

namespace DocExamples.Text

/-- A floating-point number. -/
inductive Binary64 where
  /-- The number `m * 2 ^ e`. -/
  | finite (m e : Int)
  | infinite (negative : Bool)
  | notANumber
deriving DecidableEq, Repr

namespace Binary64

/-- A power of two. -/
def powerOfTwo (n : Nat) : Nat := Nat.pow 2 n

/-- A power of ten. -/
def powerOfTen (n : Nat) : Nat := Nat.pow 10 n

/-- A quotient of natural numbers, rounded to the nearest whole number, a half to the even one. -/
def roundQuotient (num den : Nat) : Nat :=
  let q := num / den
  let r := num % den
  if 2 * r < den then q
  else if den < 2 * r then q + 1
  else if q % 2 = 0 then q else q + 1

/-- How many bits a natural number has. -/
def bitLength (n : Nat) : Nat := if n = 0 then 0 else n.log2 + 1

/-- The nearest number to a positive quotient, as a whole number and a power of two. -/
def nearest (num den : Nat) : Nat × Int :=
  let guess : Int := (bitLength num : Int) - bitLength den - 53
  -- `num / den` lies between `2 ^ (guess + 52)` and `2 ^ (guess + 54)`
  let exponent (e : Int) : Int := max e (-1074)
  let scaled (e : Int) : Nat :=
    roundQuotient (num * powerOfTwo (-e).toNat) (den * powerOfTwo e.toNat)
  let low := exponent guess
  if scaled low ≤ powerOfTwo 53 then (scaled low, low)
  else
    let high := exponent (guess + 1)
    (scaled high, high)

/-- The nearest number to `digits * 10 ^ exponent`. -/
def ofDecimal (negative : Bool) (digits : Nat) (exponent : Int) : Binary64 :=
  if digits = 0 then .finite 0 0
  else
    let (m, e) := nearest (digits * powerOfTen exponent.toNat) (powerOfTen (-exponent).toNat)
    if powerOfTwo 1024 ≤ m * powerOfTwo e.toNat then .infinite negative
    else .finite (if negative then -(m : Int) else m) e

/-- The natural number that a run of ASCII digits writes. -/
def natOf (cs : List Char) : Nat := cs.foldl (fun n c => n * 10 + (c.toNat - '0'.toNat)) 0

/-- The whole number that ASCII digits with or without a sign write. -/
def intOf : List Char → Int
  | '-' :: cs => -(natOf cs : Int)
  | '+' :: cs => natOf cs
  | cs => natOf cs

/-- The number that a text writes. -/
def ofText (s : String) : Binary64 :=
  let (negative, body) : Bool × List Char :=
    match s.toList with
    | '-' :: cs => (true, cs)
    | cs => (false, cs)
  if body = ['i', 'n', 'f'] then .infinite negative
  else if body = ['n', 'a', 'n'] then .notANumber
  else
    let isMark := fun c => c = 'e' || c = 'E'
    let mantissa := body.takeWhile fun c => !isMark c
    let exponent := (body.dropWhile fun c => !isMark c).drop 1
    let whole := mantissa.takeWhile (· ≠ '.')
    let fraction := (mantissa.dropWhile (· ≠ '.')).drop 1
    ofDecimal negative (natOf (whole ++ fraction)) (intOf exponent - fraction.length)

/-- The number of a whole number. -/
def ofInt (n : Int) : Binary64 := .finite n 0

/-- Two numbers are the same number; what is not a number differs from itself. -/
def equal : Binary64 → Binary64 → Bool
  | .finite m e, .finite m' e' =>
    let low := min e e'
    m * powerOfTwo (e - low).toNat == m' * powerOfTwo (e' - low).toNat
  | .infinite s, .infinite s' => s == s'
  | _, _ => false

/-- One number is less than another one; what is not a number is not less than any. -/
def less : Binary64 → Binary64 → Bool
  | .finite m e, .finite m' e' =>
    let low := min e e'
    m * powerOfTwo (e - low).toNat < m' * powerOfTwo (e' - low).toNat
  | .finite _ _, .infinite negative => !negative
  | .infinite negative, .finite _ _ => negative
  | .infinite negative, .infinite negative' => negative && !negative'
  | _, _ => false

/-- A finite number without its fraction. -/
def truncate : Binary64 → Option Int
  | .finite m e =>
    some (if 0 ≤ e then m * powerOfTwo e.toNat else m.tdiv (powerOfTwo (-e).toNat))
  | _ => none

end Binary64

end DocExamples.Text
