import DocExamples.Text.Utf8

/-!
# Reading back what was written as UTF-8

The reader of UTF-8 takes in the bytes of a character one at a time.  Between them it holds the bits
read so far, and a range for the next byte that the bytes of a character never leave.  So it reads
back every text from its bytes (`decode_toUTF8`).
-/

namespace DocExamples.Text.Utf8

variable {position : Nat} {done : List Char} {b : UInt8} {rest : List UInt8}

/-! ### One byte -/

theorem decodeFrom_none_of_ok {chars : List Char} {s : State}
    (h : first position b = .ok (chars, s)) :
    decodeFrom position none done (b :: rest) =
      decodeFrom (position + 1) s (chars ++ done) rest := by
  rw [decodeFrom, step, h]

section Pending

variable {start seen value : Nat} {lead low high : UInt8} (h : low ≤ b ∧ b ≤ high)

include h

/-- The last byte of a character. -/
theorem decodeFrom_last :
    decodeFrom position (some ⟨start, lead, seen, 0, low, high, value⟩) done (b :: rest) =
      decodeFrom (position + 1) none (Char.ofNat (value * 64 + (b.toNat - 0x80)) :: done) rest := by
  rw [decodeFrom, step, if_pos h]
  rfl

/-- A byte inside of a character. -/
theorem decodeFrom_more (more : Nat) :
    decodeFrom position (some ⟨start, lead, seen, more + 1, low, high, value⟩) done (b :: rest) =
      decodeFrom (position + 1)
        (some ⟨start, lead, seen + 1, more, 0x80, 0xBF, value * 64 + (b.toNat - 0x80)⟩)
        done rest := by
  rw [decodeFrom, step, if_pos h]
  rfl

end Pending

theorem first_ascii (h : b.toNat < 0x80) :
    first position b = .ok ([Char.ofNat b.toNat], none) := by
  simp only [first, h, if_true]

theorem first_two (hlow : 0xC2 ≤ b.toNat) (hhigh : b.toNat < 0xE0) :
    first position b = .ok ([], some ⟨position, b, 1, 0, 0x80, 0xBF, b.toNat - 0xC0⟩) := by
  have hascii : ¬b.toNat < 0x80 := by omega
  have hlead : ¬b.toNat < 0xC2 := by omega
  simp only [first, hascii, hlead, hhigh, if_true, if_false]

/-- In front of two more bytes the range of the next one keeps out shorter forms and surrogates. -/
theorem first_three (hlow : 0xE0 ≤ b.toNat) (hhigh : b.toNat < 0xF0) :
    first position b = .ok ([], some ⟨position, b, 1, 1, if b.toNat = 0xE0 then 0xA0 else 0x80,
      if b.toNat = 0xED then 0x9F else 0xBF, b.toNat - 0xE0⟩) := by
  have hascii : ¬b.toNat < 0x80 := by omega
  have hlead : ¬b.toNat < 0xC2 := by omega
  have htwo : ¬b.toNat < 0xE0 := by omega
  simp only [first, hascii, hlead, htwo, hhigh, if_true, if_false]
  by_cases hE0 : b.toNat = 0xE0
  · simp [hE0]
  · by_cases hED : b.toNat = 0xED
    · simp [hED]
    · simp only [hE0, hED, if_false]

/-- In front of three more bytes it keeps out shorter forms and what is beyond the last character. -/
theorem first_four (hlow : 0xF0 ≤ b.toNat) (hhigh : b.toNat ≤ 0xF4) :
    first position b = .ok ([], some ⟨position, b, 1, 2, if b.toNat = 0xF0 then 0x90 else 0x80,
      if b.toNat = 0xF4 then 0x8F else 0xBF, b.toNat - 0xF0⟩) := by
  have hascii : ¬b.toNat < 0x80 := by omega
  have hlead : ¬b.toNat < 0xC2 := by omega
  have htwo : ¬b.toNat < 0xE0 := by omega
  have hthree : ¬b.toNat < 0xF0 := by omega
  have hE0 : b.toNat ≠ 0xE0 := by omega
  have hED : b.toNat ≠ 0xED := by omega
  simp only [first, hascii, hlead, htwo, hthree, hE0, hED, if_false]
  by_cases hF0 : b.toNat = 0xF0
  · simp [hF0]
  · by_cases hF4 : b.toNat = 0xF4
    · simp [hF4]
    · have hinside : b.toNat < 0xF4 := by omega
      simp only [hF0, hF4, hinside, if_true, if_false]

/-! ### One character -/

section Numbers

variable {n v : Nat}

theorem toNat_ofNat (h : n < 256) : (UInt8.ofNat n).toNat = n := by
  rw [UInt8.toNat_ofNat', Nat.mod_eq_of_lt h]

theorem ofNat_between {low high : UInt8} (hn : n < 256) (hlow : low.toNat ≤ n)
    (hhigh : n ≤ high.toNat) : low ≤ UInt8.ofNat n ∧ UInt8.ofNat n ≤ high := by
  rw [UInt8.le_iff_toNat_le, UInt8.le_iff_toNat_le, toNat_ofNat hn]
  exact ⟨hlow, hhigh⟩

/-- Six bits make a byte that goes on with a character. -/
theorem bits_between (n : Nat) :
    0x80 ≤ UInt8.ofNat (n % 64 + 128) ∧ UInt8.ofNat (n % 64 + 128) ≤ 0xBF := by
  apply ofNat_between
  · omega
  · change 128 ≤ n % 64 + 128
    omega
  · change n % 64 + 128 ≤ 191
    omega

theorem toNat_bits (n : Nat) : (UInt8.ofNat (n % 64 + 128)).toNat = n % 64 + 128 :=
  toNat_ofNat (by omega)

theorem decodeFrom_two (hlow : 128 ≤ v) (hhigh : v ≤ 2047) :
    decodeFrom position none done
        (UInt8.ofNat (v / 64 % 32 + 192) :: UInt8.ofNat (v % 64 + 128) :: rest) =
      decodeFrom (position + 2) none (Char.ofNat v :: done) rest := by
  have hlead : (UInt8.ofNat (v / 64 % 32 + 192)).toNat = v / 64 % 32 + 192 :=
    toNat_ofNat (by omega)
  have hvalue : (v / 64 % 32 + 192 - 0xC0) * 64 + (v % 64 + 128 - 0x80) = v := by omega
  rw [decodeFrom_none_of_ok (first_two (by omega) (by omega)), hlead,
    decodeFrom_last (bits_between v), toNat_bits, hvalue]
  rfl

theorem decodeFrom_three (hlow : 2048 ≤ v) (hhigh : v ≤ 65535)
    (hsurrogate : v < 0xD800 ∨ 0xDFFF < v) :
    decodeFrom position none done
        (UInt8.ofNat (v / 4096 % 16 + 224) :: UInt8.ofNat (v / 64 % 64 + 128) ::
          UInt8.ofNat (v % 64 + 128) :: rest) =
      decodeFrom (position + 3) none (Char.ofNat v :: done) rest := by
  have hlead : (UInt8.ofNat (v / 4096 % 16 + 224)).toNat = v / 4096 % 16 + 224 :=
    toNat_ofNat (by omega)
  have hrange : (if v / 4096 % 16 + 224 = 0xE0 then 0xA0 else 0x80) ≤
        UInt8.ofNat (v / 64 % 64 + 128) ∧
      UInt8.ofNat (v / 64 % 64 + 128) ≤ if v / 4096 % 16 + 224 = 0xED then 0x9F else 0xBF := by
    apply ofNat_between
    · omega
    · split
      · change 160 ≤ v / 64 % 64 + 128
        omega
      · change 128 ≤ v / 64 % 64 + 128
        omega
    · split
      · change v / 64 % 64 + 128 ≤ 159
        omega
      · change v / 64 % 64 + 128 ≤ 191
        omega
  have hvalue : ((v / 4096 % 16 + 224 - 0xE0) * 64 + (v / 64 % 64 + 128 - 0x80)) * 64
      + (v % 64 + 128 - 0x80) = v := by omega
  rw [decodeFrom_none_of_ok (first_three (by omega) (by omega)), hlead,
    decodeFrom_more hrange 0, decodeFrom_last (bits_between v), toNat_bits, toNat_bits, hvalue]
  rfl

theorem decodeFrom_four (hlow : 65536 ≤ v) (hhigh : v < 0x110000) :
    decodeFrom position none done
        (UInt8.ofNat (v / 262144 % 8 + 240) :: UInt8.ofNat (v / 4096 % 64 + 128) ::
          UInt8.ofNat (v / 64 % 64 + 128) :: UInt8.ofNat (v % 64 + 128) :: rest) =
      decodeFrom (position + 4) none (Char.ofNat v :: done) rest := by
  have hlead : (UInt8.ofNat (v / 262144 % 8 + 240)).toNat = v / 262144 % 8 + 240 :=
    toNat_ofNat (by omega)
  have hrange : (if v / 262144 % 8 + 240 = 0xF0 then 0x90 else 0x80) ≤
        UInt8.ofNat (v / 4096 % 64 + 128) ∧
      UInt8.ofNat (v / 4096 % 64 + 128) ≤ if v / 262144 % 8 + 240 = 0xF4 then 0x8F else 0xBF := by
    apply ofNat_between
    · omega
    · split
      · change 144 ≤ v / 4096 % 64 + 128
        omega
      · change 128 ≤ v / 4096 % 64 + 128
        omega
    · split
      · change v / 4096 % 64 + 128 ≤ 143
        omega
      · change v / 4096 % 64 + 128 ≤ 191
        omega
  have hvalue : (((v / 262144 % 8 + 240 - 0xF0) * 64 + (v / 4096 % 64 + 128 - 0x80)) * 64
      + (v / 64 % 64 + 128 - 0x80)) * 64 + (v % 64 + 128 - 0x80) = v := by omega
  rw [decodeFrom_none_of_ok (first_four (by omega) (by omega)), hlead,
    decodeFrom_more hrange 1, decodeFrom_more (bits_between (v / 64)) 0,
    decodeFrom_last (bits_between v), toNat_bits, toNat_bits, toNat_bits, hvalue]
  rfl

end Numbers

/-- A character is read from its bytes, whatever follows. -/
theorem decodeFrom_utf8EncodeChar (c : Char) (position : Nat) (done : List Char)
    (rest : List UInt8) :
    decodeFrom position none done (String.utf8EncodeChar c ++ rest) =
      decodeFrom (position + (String.utf8EncodeChar c).length) none (c :: done) rest := by
  have hchar : Char.ofNat c.val.toNat = c := Char.ofNat_toNat c
  have hvalid : c.val.toNat < 0xD800 ∨ 0xDFFF < c.val.toNat ∧ c.val.toNat < 0x110000 := c.valid
  simp only [String.utf8EncodeChar]
  split
  · next hascii =>
    have hbyte : (UInt8.ofNat c.val.toNat).toNat = c.val.toNat := toNat_ofNat (by omega)
    rw [List.singleton_append, decodeFrom_none_of_ok (first_ascii (by omega)), hbyte, hchar]
    rfl
  · split
    · refine (decodeFrom_two (v := c.val.toNat) (by omega) (by omega)).trans ?_
      rw [hchar]
      rfl
    · split
      · refine (decodeFrom_three (v := c.val.toNat) (by omega) (by omega) (by omega)).trans ?_
        rw [hchar]
        rfl
      · refine (decodeFrom_four (v := c.val.toNat) (by omega) (by omega)).trans ?_
        rw [hchar]
        rfl

/-! ### Whole texts -/

theorem decodeFrom_flatMap (cs : List Char) (position : Nat) (done : List Char) :
    decodeFrom position none done (cs.flatMap String.utf8EncodeChar) =
      .ok (done.reverse ++ cs) := by
  induction cs generalizing position done with
  | nil => rw [List.flatMap_nil, decodeFrom, List.append_nil]
  | cons c cs ih =>
    rw [List.flatMap_cons, decodeFrom_utf8EncodeChar, ih, List.reverse_cons, List.append_assoc,
      List.singleton_append]

/-- A text is read back from its bytes. -/
theorem decode_toUTF8 (s : String) : decode s.toUTF8.data.toList = .ok s.toList := by
  have hbytes : s.toUTF8.data.toList = s.toList.flatMap String.utf8EncodeChar := by
    rw [String.toUTF8, ← String.ofList_toList (s := s), String.toByteArray_ofList,
      List.utf8Encode, List.toList_data_toByteArray, String.toList_ofList]
  rw [hbytes, decode, decodeFrom_flatMap]
  rfl

end DocExamples.Text.Utf8
