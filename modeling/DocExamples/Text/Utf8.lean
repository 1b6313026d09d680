/-!
Reading UTF-8.

A machine reads one byte at a time.  Inside a character it knows how many bytes are still owed and
the range that the next one must lie in; the first byte outside of its range is refused, together
with the bytes of the character read before it.
-/

namespace DocExamples.Text.Utf8

/-- What is wrong with a sequence of bytes. -/
inductive Reason where
  /-- No character starts with the byte. -/
  | start
  /-- The character does not go on with the byte that follows. -/
  | continuation
  /-- The bytes end inside a character. -/
  | ending
deriving DecidableEq, Repr

/-- Bytes that are no UTF-8. -/
structure Fault where
  reason : Reason
  /-- The position of the first refused byte. -/
  position : Nat
  /-- How many bytes are refused. -/
  count : Nat
  /-- The first refused byte. -/
  first : UInt8
deriving DecidableEq, Repr

/-- A character of which bytes are missing. -/
structure Pending where
  /-- The position of its first byte. -/
  position : Nat
  first : UInt8
  /-- How many of its bytes were read. -/
  seen : Nat
  /-- How many more bytes follow the next one. -/
  more : Nat
  /-- The range of the next byte. -/
  low : UInt8
  high : UInt8
  /-- The code point that the bytes read so far write. -/
  value : Nat
deriving DecidableEq, Repr

/-- Where the machine stands: between characters or inside one. -/
abbrev State := Option Pending

/-- Read the first byte of a character. -/
def first (position : Nat) (b : UInt8) : Except Fault (List Char × State) :=
  let inside (more : Nat) (low high : UInt8) (value : Nat) : Except Fault (List Char × State) :=
    .ok ([], some ⟨position, b, 1, more, low, high, value⟩)
  let n := b.toNat
  if n < 0x80 then .ok ([Char.ofNat n], none)
  else if n < 0xC2 then .error ⟨.start, position, 1, b⟩
  else if n < 0xE0 then inside 0 0x80 0xBF (n - 0xC0)
  else if n = 0xE0 then inside 1 0xA0 0xBF (n - 0xE0)
  else if n = 0xED then inside 1 0x80 0x9F (n - 0xE0)
  else if n < 0xF0 then inside 1 0x80 0xBF (n - 0xE0)
  else if n = 0xF0 then inside 2 0x90 0xBF (n - 0xF0)
  else if n < 0xF4 then inside 2 0x80 0xBF (n - 0xF0)
  else if n = 0xF4 then inside 2 0x80 0x8F (n - 0xF0)
  else .error ⟨.start, position, 1, b⟩

/-- Read one byte. -/
def step (position : Nat) (s : State) (b : UInt8) : Except Fault (List Char × State) :=
  match s with
  | none => first position b
  | some p =>
    if p.low ≤ b ∧ b ≤ p.high then
      let value := p.value * 64 + (b.toNat - 0x80)
      match p.more with
      | 0 => .ok ([Char.ofNat value], none)
      | more + 1 =>
        .ok ([], some { p with
          seen := p.seen + 1, more := more, low := 0x80, high := 0xBF, value := value })
    else .error ⟨.continuation, p.position, p.seen, p.first⟩

/-- Read bytes from a position on; `done` holds the characters read before, the last one first. -/
def decodeFrom (position : Nat) (s : State) (done : List Char) :
    List UInt8 → Except Fault (List Char)
  | [] =>
    match s with
    | none => .ok done.reverse
    | some p => .error ⟨.ending, p.position, p.seen, p.first⟩
  | b :: rest =>
    match step position s b with
    | .ok (chars, s) => decodeFrom (position + 1) s (chars ++ done) rest
    | .error fault => .error fault

/-- The characters that bytes write. -/
def decode (bytes : List UInt8) : Except Fault (List Char) := decodeFrom 0 none [] bytes

end DocExamples.Text.Utf8
