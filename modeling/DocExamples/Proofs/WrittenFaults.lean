import DocExamples.Proofs.Results
import DocExamples.Refusal
import Mathlib.Algebra.Group.Int.Defs
import Mathlib.Algebra.Group.Nat.Defs

/-!
# Faults that can be written

A fault is written out when it is made, with the line it stands on and the numbers of arguments of
the identifiers it names.  So a defect has a fault exactly if none of these numbers has too many
digits; where the documentation comes from plays no part (`fault_eq_ok_iff`, `fault_eq_error_iff`).
-/

namespace DocExamples

open Text

/-! ### Numbers -/

theorem Text.Binary64.powerOfTen_eq (n : Nat) : Binary64.powerOfTen n = 10 ^ n := rfl

theorem Text.hasTooManyDigits_iff (n : Int) :
    hasTooManyDigits n = true ↔ 10 ^ mostDigits ≤ n.natAbs := by
  unfold hasTooManyDigits
  split
  · next hbits =>
    -- A number of so few bits has fewer digits, as a power of ten is above the one of eight.
    have hsmall : n.natAbs < 10 ^ mostDigits := by
      calc n.natAbs < 2 ^ (n.natAbs.log2 + 1) := Nat.lt_log2_self
        _ ≤ 2 ^ (3 * mostDigits) := Nat.pow_le_pow_right (by decide) hbits
        _ = 8 ^ mostDigits := by rw [Nat.pow_mul]
        _ ≤ 10 ^ mostDigits := Nat.pow_le_pow_left (by decide) _
    constructor
    · intro h
      cases h
    · intro h
      exact absurd (Nat.lt_of_lt_of_le hsmall h) (Nat.lt_irrefl _)
  · rw [decide_eq_true_eq, Binary64.powerOfTen_eq]

theorem Text.digits_eq_error_iff {n : Int} {e : Raised} :
    digits n = .error e ↔ e = tooManyDigits ∧ 10 ^ mostDigits ≤ n.natAbs := by
  rw [digits, ← hasTooManyDigits_iff]
  split
  · next h => simp [h, eq_comm]
  · next h => simp [h]

/-! ### Notices -/

section Notices

variable {place : Place} {line : Option Int} {message : String} {e : Raised}

/-- Only a line of too many digits keeps a message from being put behind its place. -/
theorem Place.locate_eq_error_iff :
    place.locate line message = .error e ↔
      e = tooManyDigits ∧ ∃ n ∈ line, 10 ^ mostDigits ≤ n.natAbs := by
  cases line with
  | none =>
    constructor
    · intro h
      cases h
    · rintro ⟨-, n, hn, -⟩
      cases hn
  | some n =>
    have hlong : (∃ m ∈ some n, 10 ^ mostDigits ≤ m.natAbs) ↔ 10 ^ mostDigits ≤ n.natAbs := by
      simp
    rw [hlong, ← digits_eq_error_iff, Place.locate, Option.mapM_some]
    cases digits n with
    | error e' =>
      change Except.error e' = .error e ↔ _
      rfl
    | ok text =>
      constructor
      · intro h
        cases h
      · intro h
        cases h

theorem Notice.write_eq_error_iff :
    Notice.write place line message = .error e ↔ place.locate line message = .error e := by
  unfold Notice.write
  split
  · next text htext =>
    constructor
    · intro h
      cases h
    · intro h
      rw [htext] at h
      cases h
  · next e' h =>
    rw [h, Except.error.injEq, Except.error.injEq]

theorem Notice.write_eq_ok_iff {notice : Notice} :
    Notice.write place line message = .ok notice ↔
      notice.place = place ∧ notice.line = line ∧ notice.message = message := by
  obtain ⟨message', line', place', text', htext'⟩ := notice
  unfold Notice.write
  split
  · next text h =>
    constructor
    · intro heq
      cases heq
      exact ⟨rfl, rfl, rfl⟩
    · rintro ⟨rfl, rfl, rfl⟩
      obtain rfl : text' = text := Except.ok.inj (htext'.symm.trans h)
      rfl
  · next e' h =>
    constructor
    · intro heq
      cases heq
    · rintro ⟨rfl, rfl, rfl⟩
      rw [h] at htext'
      cases htext'

end Notices

/-! ### Faults -/

namespace Defect

/-- A number that the fault of the defect writes has too many digits. -/
def HasLongNumber (d : Defect) : Prop :=
  (∃ n ∈ d.arities, 10 ^ mostDigits ≤ n.natAbs) ∨ ∃ n ∈ d.line, 10 ^ mostDigits ≤ n.natAbs

variable {d : Defect} {place : Place}

theorem any_arities_iff :
    d.arities.any hasTooManyDigits = true ↔ ∃ n ∈ d.arities, 10 ^ mostDigits ≤ n.natAbs := by
  simp only [List.any_eq_true, hasTooManyDigits_iff]

theorem fault_eq_error_iff {e : Raised} :
    d.fault place = .error e ↔ e = tooManyDigits ∧ d.HasLongNumber := by
  rw [fault, HasLongNumber, ← any_arities_iff]
  split
  · next h =>
    rw [Except.error.injEq, eq_comm, and_iff_left (Or.inl h)]
  · next h =>
    rw [or_iff_right h, ← Place.locate_eq_error_iff, ← Notice.write_eq_error_iff]
    cases Notice.write place d.line (d.message place) with
    | error e' =>
      change Except.error e' = .error e ↔ _
      rw [Except.error.injEq, Except.error.injEq]
    | ok notice =>
      constructor
      · intro h
        cases h
      · intro h
        cases h

/-- A defect has one fault wherever the documentation comes from, unless a number is too long. -/
theorem fault_eq_ok_iff {f : Fault} :
    d.fault place = .ok f ↔ ¬d.HasLongNumber ∧ f.kind = d.kind ∧ f.line = d.line ∧
      f.place = place ∧ f.message = d.message place := by
  obtain ⟨notice, kind⟩ := f
  constructor
  · intro h
    have hshort : ¬d.HasLongNumber := by
      intro hlong
      rw [fault_eq_error_iff.mpr ⟨rfl, hlong⟩] at h
      cases h
    rw [fault, if_neg fun hany => hshort (Or.inl (any_arities_iff.mp hany))] at h
    cases hwrite : Notice.write place d.line (d.message place) with
    | error e =>
      rw [hwrite] at h
      cases h
    | ok written =>
      rw [hwrite] at h
      cases h
      obtain ⟨hplace, hline, hmessage⟩ := Notice.write_eq_ok_iff.mp hwrite
      exact ⟨hshort, rfl, hline, hplace, hmessage⟩
  · rintro ⟨hshort, rfl, hline, hplace, hmessage⟩
    rw [fault, if_neg fun hany => hshort (Or.inl (any_arities_iff.mp hany)),
      Notice.write_eq_ok_iff.mpr ⟨hplace, hline, hmessage⟩]
    rfl

theorem exists_fault (place : Place) (h : ¬d.HasLongNumber) :
    ∃ f, d.fault place = .ok f ∧ f.kind = d.kind ∧ f.line = d.line := by
  cases hfault : d.fault place with
  | error e => exact absurd (fault_eq_error_iff.mp hfault).2 h
  | ok f =>
    obtain ⟨-, hkind, hline, -, -⟩ := fault_eq_ok_iff.mp hfault
    exact ⟨f, rfl, hkind, hline⟩

end Defect

/-! ### Refusals -/

namespace Interruption

variable {d : Defect} {place : Place}

theorem ofFault_eq_raised_iff {e : Raised} :
    Interruption.ofFault (d.fault place) = .raised e ↔ e = tooManyDigits ∧ d.HasLongNumber := by
  rw [← Defect.fault_eq_error_iff]
  cases d.fault place with
  | error e' => rw [ofFault, raised.injEq, Except.error.injEq]
  | ok f =>
    constructor
    · intro h
      cases h
    · intro h
      cases h

theorem ofFault_eq_refused_iff {r : Refusal} :
    Interruption.ofFault (d.fault place) = .refused r ↔
      ∃ f, d.fault place = .ok f ∧ .ofFault f = r := by
  cases d.fault place with
  | error e =>
    constructor
    · intro h
      cases h
    · rintro ⟨f, hf, -⟩
      cases hf
  | ok f => simp [ofFault]

end Interruption

end DocExamples
