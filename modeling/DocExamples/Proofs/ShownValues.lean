import DocExamples.Proofs.Results
import DocExamples.Value.Shown

/-!
# Values that can be shown

A value is shown together with everything it holds, alone or nested in lists, tuples and
dictionaries.  The main statement is that showing succeeds exactly if nothing that is met on the way
fails to be shown, and values do not hold one another too often (`exists_shown_iff`).
-/

namespace DocExamples

/-- The values that an object holds, keys of a dictionary included. -/
def Contents.values : Contents → List Value
  | .list items => items
  | .tuple items => items
  | .dict entries => entries.flatMap fun e => [e.1, e.2]

namespace Value

/-- A value that fails to be shown wherever it stands. -/
def FailsAlone : Value → Prop
  | .unshowable .. => True
  | .int n => Text.hasTooManyDigits n = true
  | _ => False

/-- The values that are met while a value is shown, with the number of objects around them.  An
object that is met inside of itself is not entered again. -/
inductive Meets (h : Heap) : List Nat → Nat → Value → Value → Prop where
  | here {around : List Nat} {v : Value} : Meets h around 0 v v
  | inside {around : List Nat} {number depth : Nat} {w u : Value} (hnew : number ∉ around)
      (hw : w ∈ (h.contents number).values) (hrest : Meets h (number :: around) depth w u) :
      Meets h around (depth + 1) (.object number) u

/-! ### Showing a value -/

section Showing

variable {h : Heap} {fuel number depth : Nat} {around : List Nat} {v u : Value}

/-- An object is shown if everything that it holds is. -/
theorem exists_shownWithin_object (hnew : number ∉ around) :
    (∃ text, shownWithin h (fuel + 1) around (.object number) = .ok text) ↔
      ∀ w ∈ (h.contents number).values, ∃ text,
        shownWithin h fuel (number :: around) w = .ok text := by
  cases hcontents : h.contents number with
  | list items =>
    simp only [shownWithin, hcontents, hnew, if_false, exists_bind_pure_eq_ok_iff,
      exists_mapM_eq_ok_iff, Contents.values]
  | tuple items =>
    simp only [shownWithin, hcontents, hnew, if_false, exists_bind_pure_eq_ok_iff,
      exists_mapM_eq_ok_iff, Contents.values]
  | dict entries =>
    simp only [shownWithin, hcontents, hnew, if_false, exists_bind_pure_eq_ok_iff,
      exists_mapM_eq_ok_iff, exists_bind_eq_ok_iff, Contents.values, List.mem_flatMap]
    constructor
    · rintro hall w ⟨entry, hentry, hw⟩
      obtain ⟨key, hkey, hvalue⟩ := hall entry hentry
      rcases List.mem_cons.mp hw with rfl | hw
      · exact ⟨key, hkey⟩
      · obtain rfl := List.mem_singleton.mp hw
        exact hvalue
    · intro hall entry hentry
      obtain ⟨key, hkey⟩ := hall entry.1 ⟨entry, hentry, by simp⟩
      exact ⟨key, hkey, hall entry.2 ⟨entry, hentry, by simp⟩⟩

theorem shownWithin_of_mem (hmem : number ∈ around) :
    ∃ text, shownWithin h (fuel + 1) around (.object number) = .ok text := by
  simp only [shownWithin, hmem, if_true]
  exact ⟨_, rfl⟩

/-- A value that is no object is shown unless it fails alone. -/
theorem exists_shownWithin_plain (hplain : ∀ number, v ≠ .object number) :
    (∃ text, shownWithin h (fuel + 1) around v = .ok text) ↔ ¬v.FailsAlone := by
  cases v with
  | object number => exact absurd rfl (hplain number)
  | int n =>
    rw [shownWithin, Text.digits, FailsAlone]
    split <;> simp [*]
  | unshowable id message => simp [shownWithin, FailsAlone]
  | _ => simp [shownWithin, FailsAlone]

theorem Meets.eq_of_plain (hplain : ∀ number, v ≠ .object number)
    (hmeets : Meets h around depth v u) : depth = 0 ∧ u = v := by
  cases hmeets with
  | here => exact ⟨rfl, rfl⟩
  | inside => exact absurd rfl (hplain _)

theorem exists_shownWithin_iff :
    (∃ text, shownWithin h fuel around v = .ok text) ↔
      ∀ depth u, Meets h around depth v u → depth < fuel ∧ ¬u.FailsAlone := by
  induction fuel generalizing around v with
  | zero =>
    constructor
    · rintro ⟨text, htext⟩
      cases htext
    · intro hall
      exact absurd (hall 0 v .here).1 (Nat.lt_irrefl 0)
  | succ fuel ih =>
    by_cases hobject : ∃ number, v = .object number
    · obtain ⟨number, rfl⟩ := hobject
      by_cases hmem : number ∈ around
      · constructor
        · intro _ depth u hmeets
          cases hmeets with
          | here => exact ⟨Nat.succ_pos fuel, id⟩
          | inside hnew => exact absurd hmem hnew
        · intro _
          exact shownWithin_of_mem hmem
      · rw [exists_shownWithin_object hmem]
        simp only [ih]
        constructor
        · intro hall depth u hmeets
          cases hmeets with
          | here => exact ⟨Nat.succ_pos fuel, id⟩
          | inside _ hw hrest =>
            obtain ⟨hdepth, hshown⟩ := hall _ hw _ _ hrest
            exact ⟨Nat.succ_lt_succ hdepth, hshown⟩
        · intro hall w hw depth u hmeets
          obtain ⟨hdepth, hshown⟩ := hall (depth + 1) u (.inside hmem hw hmeets)
          exact ⟨Nat.lt_of_succ_lt_succ hdepth, hshown⟩
    · have hplain : ∀ number, v ≠ .object number := fun number hv => hobject ⟨number, hv⟩
      rw [exists_shownWithin_plain hplain]
      constructor
      · intro hshown depth u hmeets
        obtain ⟨rfl, rfl⟩ := hmeets.eq_of_plain hplain
        exact ⟨Nat.succ_pos fuel, hshown⟩
      · intro hall
        exact (hall 0 v .here).2

end Showing

/-- The value can be shown: nothing in it fails to be shown, and its objects hold one another fewer
than a thousand times. -/
def CanShow (h : Heap) (v : Value) : Prop :=
  ∀ depth u, Meets h [] depth v u → depth < deepest ∧ ¬u.FailsAlone

/-- **Showing succeeds exactly for the values that can be shown.** -/
theorem exists_shown_iff (h : Heap) (v : Value) :
    (∃ text, v.shown h = .ok text) ↔ CanShow h v :=
  exists_shownWithin_iff

end Value

end DocExamples
