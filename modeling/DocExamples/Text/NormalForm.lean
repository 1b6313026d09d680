import DocExamples.Text.LetterForms

/-!
The normal form of letters.

Two spellings of the same letters have the same normal form: every letter is taken apart into plain
letters and marks, the marks of a letter are put into a fixed order, and what can be composed is
composed again.
-/

namespace DocExamples.Text

/-! ### Syllables -/

/-- The first syllable that is composed by counting, and how many there are. -/
def firstSyllable : Nat := 0xAC00

/-- The number of composed syllables. -/
def syllableCount : Nat := 11172

/-- The code points in front of the first leading, middle and trailing letter of a syllable. -/
def leadingBase : Nat := 0x1100

/-- The first middle letter. -/
def middleBase : Nat := 0x1161

/-- The code point in front of the first trailing letter. -/
def trailingBase : Nat := 0x11A7

/-- The letters of a composed syllable. -/
def syllableLetters? (c : Char) : Option (List Char) :=
  if firstSyllable ≤ c.toNat ∧ c.toNat < firstSyllable + syllableCount then
    let n := c.toNat - firstSyllable
    let start := [Char.ofNat (leadingBase + n / 588), Char.ofNat (middleBase + n % 588 / 28)]
    some (if n % 28 = 0 then start else start ++ [Char.ofNat (trailingBase + n % 28)])
  else none

/-- The syllable that two parts of one compose. -/
def composeSyllable? (a b : Char) : Option Char :=
  if leadingBase ≤ a.toNat ∧ a.toNat < leadingBase + 19 ∧ middleBase ≤ b.toNat
      ∧ b.toNat < middleBase + 21 then
    some (.ofNat (firstSyllable + (a.toNat - leadingBase) * 588 + (b.toNat - middleBase) * 28))
  else if firstSyllable ≤ a.toNat ∧ a.toNat < firstSyllable + syllableCount
      ∧ (a.toNat - firstSyllable) % 28 = 0 ∧ trailingBase < b.toNat
      ∧ b.toNat < trailingBase + 28 then
    some (.ofNat (a.toNat + (b.toNat - trailingBase)))
  else none

/-! ### Taking apart -/

/-- The composed characters and the two parts of each. -/
def compositions : List (List Char) := wordsOf compositionTable

/-- The forms of letters and the letters of each. -/
def variants : List (List Char) := wordsOf variantTable

/-- How often the first part of a composed character may be composed itself. -/
def compositionDepth : Nat := 8

/-- The plain letters and marks of a character. -/
def takeApart : Nat → Char → List Char
  | 0, c => [c]
  | depth + 1, c =>
    match syllableLetters? c with
    | some letters => letters
    | none =>
      match compositions.find? (·.head? = some c), variants.find? (·.head? = some c) with
      | some [_, a, b], _ => takeApart depth a ++ takeApart depth b
      | _, some (_ :: letters) => letters
      | _, _ => [c]

/-- The strength of the tie between a mark and its letter; zero for letters. -/
def markClass (c : Char) : Nat :=
  match markRanges.find? fun r => r.1 ≤ c.toNat && c.toNat ≤ r.2.1 with
  | some r => r.2.2
  | none => 0

/-- Put a character behind others, the last one first; a mark goes in front of those marks of the
same letter that are tied less strongly. -/
def putMark (c : Char) : List Char → List Char
  | [] => [c]
  | d :: rest =>
    if markClass c ≠ 0 ∧ markClass c < markClass d then d :: putMark c rest else c :: d :: rest

/-- The characters with the marks of each letter in order. -/
def orderMarks (cs : List Char) : List Char := (cs.foldl (fun done c => putMark c done) []).reverse

/-! ### Composing -/

/-- The character that two characters compose. -/
def composeTwo? (a b : Char) : Option Char :=
  match composeSyllable? a b with
  | some c => some c
  | none => (compositions.find? (·.tail = [a, b])).bind List.head?

/-- How far composing has come; lists have the last character first. -/
structure Composing where
  /-- Everything in front of the last letter. -/
  done : List Char := []
  /-- The last letter, composed with the marks that it could be composed with. -/
  letter : Option Char := none
  /-- The marks of the last letter that are left over. -/
  marks : List Char := []

namespace Composing

/-- All characters so far. -/
def all (s : Composing) : List Char := s.marks ++ s.letter.toList ++ s.done

/-- Go on with a character: it joins the letter unless a mark between them holds it off. -/
def step (s : Composing) (c : Char) : Composing :=
  let free := s.marks.head?.all fun m => markClass m < markClass c
  match if free then s.letter.bind (composeTwo? · c) else none with
  | some composed => { s with letter := some composed }
  | none =>
    if markClass c = 0 then ⟨s.all, some c, []⟩
    else if s.letter.isNone then { s with done := c :: s.done }
    else { s with marks := c :: s.marks }

end Composing

/-- The characters with everything composed that can be. -/
def compose (cs : List Char) : List Char := (cs.foldl Composing.step {}).all.reverse

/-- The normal form of a text. -/
def normalForm (s : String) : String :=
  if s.toList.all (·.toNat < 128) then s
  else .ofList (compose (orderMarks (s.toList.flatMap (takeApart compositionDepth))))

end DocExamples.Text
