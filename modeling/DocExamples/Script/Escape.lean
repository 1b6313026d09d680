/-!
Escapes in the texts of a script.

A backslash and what belongs to it stand for one character, or for none if it hides a line end.  A
backslash that nothing belongs to stands for itself.
-/

namespace DocExamples.Script

/-- The characters that a letter behind a backslash stands for. -/
def escapeLetters : List (Char × Char) :=
  [('n', '\n'), ('t', '\t'), ('\\', '\\'), ('\'', '\''), ('"', '"'), ('a', '\x07'), ('b', '\x08'),
   ('f', '\x0c'), ('r', '\r'), ('v', '\x0b')]

/-- The value of a digit of a number system with up to sixteen digits. -/
def digitValue? (radix : Nat) (c : Char) : Option Nat :=
  let value :=
    if c.isDigit then c.toNat - '0'.toNat
    else if 'a' ≤ c ∧ c ≤ 'f' then c.toNat - 'a'.toNat + 10
    else if 'A' ≤ c ∧ c ≤ 'F' then c.toNat - 'A'.toNat + 10
    else 16
  if value < radix then some value else none

/-- The number that digits write. -/
def numberOf (radix : Nat) (digits : List Char) : Nat :=
  digits.foldl (fun n c => n * radix + (digitValue? radix c).getD 0) 0

/-- The character with a number of a fixed count of hexadecimal digits. -/
def hexEscape (count : Nat) (rest : List Char) : Option Char :=
  let digits := rest.take count
  let n := numberOf 16 digits
  if digits.length = count ∧ digits.all (fun c => (digitValue? 16 c).isSome) ∧ n.isValidChar then
    some (.ofNat n)
  else none

/-- The octal digits, three at most, that some characters start with. -/
def octalDigits (rest : List Char) : List Char :=
  (rest.take 3).takeWhile fun c => (digitValue? 8 c).isSome

/-- What a backslash in front of some characters stands for, and how many of them belong to it. -/
def escape (rest : List Char) : List Char × Nat :=
  match rest with
  | [] => (['\\'], 0)
  | c :: behind =>
    let digits := octalDigits rest
    let count := if c = 'x' then 2 else if c = 'u' then 4 else if c = 'U' then 8 else 0
    if c = '\n' then ([], 1)
    else
      match escapeLetters.find? (·.1 = c) with
      | some (_, meant) => ([meant], 1)
      | none =>
        if !digits.isEmpty then ([.ofNat (numberOf 8 digits)], digits.length)
        else
          match if count = 0 then none else hexEscape count behind with
          | some meant => ([meant], count + 1)
          | none => (['\\'], 0)

/-- The characters behind some that were skipped, with what escapes stand for. -/
def unescapeBehind : Nat → List Char → List Char
  | _, [] => []
  | n + 1, _ :: rest => unescapeBehind n rest
  | 0, c :: rest =>
    if c = '\\' then (escape rest).1 ++ unescapeBehind (escape rest).2 rest
    else c :: unescapeBehind 0 rest

/-- The characters with what escapes stand for. -/
def unescape (cs : List Char) : List Char := unescapeBehind 0 cs

end DocExamples.Script
