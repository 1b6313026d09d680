import DocExamples.Text.Integer
import Mathlib.Data.List.TakeWhile
import Mathlib.Data.Nat.Digits.Lemmas

/-!
# Whole numbers and their digits

The decimal digits of a number are read back as that number as long as there are not too many of
them (`readInteger_repr`), and a text of digits never gives a number that has more
(`exists_of_readInteger`).  Both ends meet at the same bound, so what was read once can be written
and read again.
-/

namespace DocExamples.Text

/-! ### Digits of ASCII -/

/-- The value of an ASCII digit. -/
def asciiValue (c : Char) : Nat := c.toNat - '0'.toNat

theorem toNat_ascii {c : Char} (h : c.isDigit = true) : 48 ≤ c.toNat ∧ c.toNat ≤ 57 := by
  simpa [Char.isDigit, UInt32.le_iff_toNat_le] using h

theorem decimalValue?_ascii {c : Char} (h : c.isDigit = true) :
    decimalValue? c = some (asciiValue c) := by
  obtain ⟨hlower, hupper⟩ := toNat_ascii h
  have hzero : decimalZeros.find? (fun z => z ≤ c.toNat && c.toNat < z + 10) = some 0x30 := by
    rw [decimalZeros, List.find?_cons_of_pos]
    simp only [Bool.and_eq_true, decide_eq_true_eq]
    omega
  rw [decimalValue?, hzero]
  rfl

theorem isDigit_ascii {c : Char} (h : c.isDigit = true) : isDigit c = true := by
  rw [isDigit, decimalValue?_ascii h]
  rfl

theorem not_isBlank_ascii {c : Char} (h : c.isDigit = true) : isBlank c = false := by
  obtain ⟨hlower, hupper⟩ := toNat_ascii h
  simp [isBlank, inRanges, blankRanges]
  omega

theorem digitBelow?_ascii {c : Char} (h : c.isDigit = true) :
    digitBelow? 10 c = some (asciiValue c) := by
  obtain ⟨hlower, hupper⟩ := toNat_ascii h
  have hvalue : digitValue? c = some (asciiValue c) := by
    rw [digitValue?, if_neg, if_neg, decimalValue?_ascii h]
    · simp only [Char.le_def, UInt32.le_iff_toNat_le]
      change ¬(65 ≤ c.toNat ∧ _)
      omega
    · simp only [Char.le_def, UInt32.le_iff_toNat_le]
      change ¬(97 ≤ c.toNat ∧ _)
      omega
  have hsmall : asciiValue c < 10 := by
    rw [asciiValue]
    change c.toNat - 48 < 10
    omega
  rw [digitBelow?, hvalue, Option.filter_some, if_pos (decide_eq_true hsmall)]

/-! ### Runs of digits -/

theorem digitRun_ascii {cs : List Char} (h : ∀ c ∈ cs, c.isDigit = true) (values : List Nat) :
    digitRun 10 values cs = some ((cs.map asciiValue).reverse ++ values, []) := by
  induction cs generalizing values with
  | nil => rfl
  | cons c cs ih =>
    obtain ⟨hc, hcs⟩ := List.forall_mem_cons.mp h
    have hunderscore : c ≠ '_' := by
      rintro rfl
      cases hc
    rw [digitRun, digitBelow?_ascii hc]
    · change digitRun 10 (asciiValue c :: values) cs = _
      rw [ih hcs]
      simp
    · intro _ _ hc _
      exact hunderscore hc

theorem ofDigitsRev_reverse_append (cs : List Char) (values : List Nat) :
    ofDigitsRev 10 ((cs.map asciiValue).reverse ++ values) =
      Nat.ofDigitChars 10 cs (ofDigitsRev 10 values) := by
  induction cs generalizing values with
  | nil => rfl
  | cons c cs ih =>
    have hcut : ((c :: cs).map asciiValue).reverse ++ values =
        (cs.map asciiValue).reverse ++ asciiValue c :: values := by simp
    rw [hcut, ih, Nat.ofDigitChars_cons, ofDigitsRev, Nat.add_comm]
    rfl

theorem ofDigitsRev_eq (radix : Nat) (values : List Nat) :
    ofDigitsRev radix values = Nat.ofDigits radix values := by
  induction values with
  | nil => rfl
  | cons v values ih => rw [ofDigitsRev, Nat.ofDigits_cons, ih]

theorem lt_of_digitBelow? {radix v : Nat} {c : Char} (h : digitBelow? radix c = some v) :
    v < radix := by
  obtain ⟨-, hv⟩ := Option.filter_eq_some_iff.mp h
  exact of_decide_eq_true hv

theorem lt_of_digitRun {radix : Nat} {values found : List Nat} {cs rest : List Char}
    (h : digitRun radix values cs = some (found, rest)) (hvalues : ∀ v ∈ values, v < radix) :
    ∀ v ∈ found, v < radix := by
  fun_induction digitRun radix values cs with
  | case1 values =>
    cases h
    exact hvalues
  | case2 c cs w values v hv ih =>
    exact ih h (List.forall_mem_cons.mpr ⟨lt_of_digitBelow? hv, hvalues⟩)
  | case3 => cases h
  | case4 values c cs hshape v hv ih =>
    exact ih h (List.forall_mem_cons.mpr ⟨lt_of_digitBelow? hv, hvalues⟩)
  | case5 => cases h
  | case6 values c cs =>
    cases h
    exact hvalues

/-! ### Numbers -/

theorem markedRadix?_ne_ten {c : Char} {r : Nat} (h : markedRadix? c = some r) : r ≠ 10 := by
  rw [markedRadix?] at h
  split at h
  · cases h
    decide
  · split at h
    · cases h
      decide
    · split at h
      · cases h
        decide
      · cases h

/-- In the decimal system no mark is looked for. -/
theorem takeMark_ten (body : List Char) : takeMark 10 body = (10, body) := by
  unfold takeMark
  split
  · next c rest =>
    have hnone : ((markedRadix? c).bind fun r =>
        if 10 = 0 ∨ 10 = r then some (r, rest) else none) = none := by
      rw [Option.bind_eq_none_iff]
      intro r hr
      have hten : ¬(10 = 0 ∨ 10 = r) := by
        have hne := markedRadix?_ne_ten hr
        omega
      rw [if_neg hten]
    simp only [hnone]
    rfl
  · rfl

theorem takeSign_of_isDigit {cs : List Char} (h : ∀ c ∈ cs, isDigit c = true) :
    takeSign cs = (1, cs) := by
  unfold takeSign
  split
  · have hminus := h '-' List.mem_cons_self
    cases hminus
  · have hplus := h '+' List.mem_cons_self
    cases hplus
  · rfl

/-- How a number in decimal digits is read: the sign, the run of digits, their number, the rest. -/
theorem readInteger_of_digitRun {s : String} {body rest : List Char} {sign : Int}
    {values : List Nat} (hsign : takeSign (s.toList.dropWhile isIntegerBlank) = (sign, body))
    (hrun : digitRun 10 [] body = some (values, rest)) :
    readInteger s =
      if mostDigits < values.length then .error (.tooLong values.length)
      else if values.isEmpty || !rest.all isIntegerBlank then .error (.invalid 10 s)
      else .ok (sign * ofDigitsRev 10 values) := by
  have hlong : (mostDigits < values.length ∧ (!isPowerOfTwo 10) = true) ↔
      mostDigits < values.length := and_iff_left rfl
  simp only [readInteger, readIntegerIn, hsign, takeMark_ten, hrun, hlong, OfNat.ofNat_ne_zero,
    false_and, if_false]

/-- **The digits of a number are read as that number** if there are not too many of them. -/
theorem readInteger_repr {n : Nat} (h : n < 10 ^ mostDigits) :
    readInteger n.repr = .ok n := by
  have hdigit : ∀ c ∈ Nat.toDigits 10 n, c.isDigit = true := by
    intro c hc
    exact Nat.isDigit_of_mem_toDigits (by decide) (by decide) hc
  have hfirst : (n.repr.toList).dropWhile isIntegerBlank = Nat.toDigits 10 n := by
    rw [Nat.toList_repr, List.dropWhile_eq_self_iff]
    intro hl hblank
    have hno := not_isBlank_ascii (hdigit _ (List.getElem_mem hl))
    rw [isIntegerBlank, hno] at hblank
    cases hblank
  have hsign : takeSign (n.repr.toList.dropWhile isIntegerBlank) = (1, Nat.toDigits 10 n) := by
    rw [hfirst]
    refine takeSign_of_isDigit ?_
    intro c hc
    exact isDigit_ascii (hdigit c hc)
  have hrun := digitRun_ascii hdigit []
  rw [List.append_nil] at hrun
  have hvalue : ofDigitsRev 10 ((Nat.toDigits 10 n).map asciiValue).reverse = n := by
    have hchars := ofDigitsRev_reverse_append (Nat.toDigits 10 n) []
    rw [List.append_nil] at hchars
    exact hchars.trans Nat.ofDigitChars_ten_toDigits
  have hshort : ¬mostDigits < ((Nat.toDigits 10 n).map asciiValue).reverse.length := by
    rw [List.length_reverse, List.length_map, Nat.not_lt]
    exact (Nat.length_toDigits_le_iff (by decide) (by decide)).mpr h
  have hsome : (((Nat.toDigits 10 n).map asciiValue).reverse.isEmpty ||
      !([] : List Char).all isIntegerBlank) = false := by
    simp [Nat.toDigits_ne_nil]
  rw [readInteger_of_digitRun hsign hrun, if_neg hshort, hsome, hvalue]
  simp

/-- Digits of any script give a natural number that few enough ASCII digits write. -/
theorem exists_of_readInteger {cs : List Char} {n : Int} (hdigit : ∀ c ∈ cs, isDigit c = true)
    (h : readInteger (.ofList cs) = .ok n) : ∃ m : Nat, n = m ∧ m < 10 ^ mostDigits := by
  have hsign : takeSign ((String.ofList cs).toList.dropWhile isIntegerBlank) =
      (1, cs.dropWhile isIntegerBlank) := by
    rw [String.toList_ofList]
    refine takeSign_of_isDigit ?_
    intro c hc
    exact hdigit c ((List.dropWhile_sublist _).subset hc)
  cases hrun : digitRun 10 [] (cs.dropWhile isIntegerBlank) with
  | none =>
    simp only [readInteger, readIntegerIn, hsign, takeMark_ten, hrun] at h
    cases h
  | some found =>
    obtain ⟨values, rest⟩ := found
    rw [readInteger_of_digitRun hsign hrun] at h
    split at h
    · cases h
    · next hshort =>
      split at h
      · cases h
      · refine ⟨ofDigitsRev 10 values, ?_, ?_⟩
        · rw [← Except.ok.inj h, Int.one_mul]
        · have hsmall := lt_of_digitRun hrun (by simp)
          rw [ofDigitsRev_eq]
          calc Nat.ofDigits 10 values < 10 ^ values.length :=
                Nat.ofDigits_lt_base_pow_length (by decide) hsmall
            _ ≤ 10 ^ mostDigits :=
                Nat.pow_le_pow_right (by decide) (Nat.not_lt.mp hshort)

end DocExamples.Text
