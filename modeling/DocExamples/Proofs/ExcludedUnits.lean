import DocExamples.Proofs.ExtractionFaults
import DocExamples.Proofs.Listings

/-!
# Units that are left out

A unit that a selection leaves out gives no tests.  But every unit is read before the selection is
made, and so the first defect of the units decides, wherever it stands.  Apart from this, the
outcome is that of the other units alone (`ofUnits_without_excluded`).
-/

namespace DocExamples

open Transcript

/-- Reading the unit finds a defect. -/
def DocUnit.Fails (u : DocUnit) (d : Defect) : Prop :=
  extract u.identifier u.text u.line = .error d

namespace Transcript

/-- The first item stays the first one if others are left out. -/
theorem IsFirst.filter {α : Type} {p : α → Prop} {xs : List α} {x : α} (q : α → Bool)
    (h : IsFirst p xs x) (hx : q x = true) : IsFirst p (xs.filter q) x := by
  obtain ⟨before, after, rfl, hbefore, hp⟩ := h
  refine ⟨before.filter q, after.filter q, ?_, ?_, hp⟩
  · rw [List.filter_append, List.filter_cons, hx]
    rfl
  · intro y hy
    exact hbefore y (List.mem_filter.mp hy).1

end Transcript

namespace Selection

/-- A selection sees only groups that it does not leave out. -/
theorem apply_filter_exclude (s : Selection) (groups : List Group) :
    s.apply (groups.filter (·.identifier ∉ s.exclude)) = s.apply groups := by
  have hkept : (groups.filter (·.identifier ∉ s.exclude)).filter (s.keeps ·.identifier) =
      groups.filter (s.keeps ·.identifier) := by
    rw [List.filter_filter]
    refine List.filter_congr fun g _ => ?_
    cases hg : s.keeps g.identifier with
    | false => rfl
    | true => rw [decide_eq_true ((s.keeps_iff _).mp hg).1, Bool.and_true]
  have hmissing := s.missing_congr (.of_eq hkept)
  rw [apply, apply, hmissing, hkept]

end Selection

namespace Listing

/-- The unit is the first one that cannot be read, and this is its defect. -/
structure FailsFirst (units : List DocUnit) (u : DocUnit) (d : Defect) : Prop where
  first : IsFirst (fun u => ∃ d, u.Fails d) units u
  fails : u.Fails d

theorem groupsOf_eq_error_iff {units : List DocUnit} {d : Defect} :
    groupsOf units = .error d ↔ ∃ u, FailsFirst units u d := by
  have hunits := mapM_eq_error_iff_isFirst
    (f := fun u : DocUnit => extract u.identifier u.text u.line) units d
  have hmap : groupsOf units =
      (units.mapM fun u => extract u.identifier u.text u.line).map List.flatten := by
    rw [groupsOf]
    cases units.mapM fun u => extract u.identifier u.text u.line <;> rfl
  rw [hmap, Transducer.map_eq_error_iff, hunits]
  exact exists_congr fun u => ⟨fun h => ⟨h.1, h.2⟩, fun h => ⟨h.first, h.fails⟩⟩

section Outcomes

variable {module : String} {selection : Selection} {extra : List (String × Json)}
  {units : List DocUnit}

theorem ofUnits_of_failsFirst {u : DocUnit} {d : Defect} (h : FailsFirst units u d) :
    ofUnits module selection extra units = .error d :=
  ofUnits_of_error (groupsOf_eq_error_iff.mpr ⟨u, h⟩)

theorem FailsFirst.head {u : DocUnit} {d : Defect} (h : u.Fails d) : FailsFirst (u :: units) u d :=
  ⟨isFirst_cons_iff.mpr (Or.inl ⟨⟨d, h⟩, rfl⟩), h⟩

theorem FailsFirst.filter {u : DocUnit} {d : Defect} (q : DocUnit → Bool)
    (h : FailsFirst units u d) (hu : q u = true) : FailsFirst (units.filter q) u d :=
  ⟨h.first.filter q hu, h.fails⟩

theorem not_mem_exclude_of_mem {tests : List NamedTest}
    (h : ofUnits module selection extra units = .ok tests) :
    ∀ t ∈ tests, t.group.identifier ∉ selection.exclude := by
  obtain ⟨found, -, -, rfl⟩ := ofUnits_eq_ok_iff.mp h
  intro t ht
  have hgroup : t.group ∈ (found.flatten.filter (selection.keeps ·.identifier)) := by
    have hmem := List.mem_map_of_mem (f := (·.group)) ht
    rw [forModule, map_group_number] at hmem
    exact (Selection.perm_sortByLine _).mem_iff.mp hmem
  exact ((selection.keeps_iff _).mp (List.mem_filter.mp hgroup).2).1

end Outcomes

/-- **A unit that is left out has no part in the outcome, unless its defect is the first one.**  It
adds no test.  The first unit that cannot be read decides, whether it is left out or not.  If it is
not left out, or if there is none, then the outcome is that of the other units alone. -/
theorem ofUnits_without_excluded (module : String) (selection : Selection)
    (extra : List (String × Json)) (units : List DocUnit) :
    (∀ u d, FailsFirst units u d → ofUnits module selection extra units = .error d) ∧
    ((∀ u d, FailsFirst units u d → u.identifier ∉ selection.exclude) →
      ofUnits module selection extra (units.filter (·.identifier ∉ selection.exclude)) =
        ofUnits module selection extra units) ∧
    ∀ tests, ofUnits module selection extra units = .ok tests →
      ∀ t ∈ tests, t.group.identifier ∉ selection.exclude := by
  refine ⟨fun u d h => ofUnits_of_failsFirst h, ?_, fun tests h => not_mem_exclude_of_mem h⟩
  intro hfirst
  cases hunits : groupsOf units with
  | error d =>
    obtain ⟨u, hu⟩ := groupsOf_eq_error_iff.mp hunits
    have hother := hu.filter (·.identifier ∉ selection.exclude) (decide_eq_true (hfirst u d hu))
    rw [ofUnits_of_failsFirst hu, ofUnits_of_failsFirst hother]
  | ok groups =>
    obtain ⟨found, hfound, rfl⟩ := groupsOf_eq_ok_iff.mp hunits
    obtain ⟨kept, hkept, hflatten⟩ := exists_found_filter (· ∉ selection.exclude) hfound
    have hothers := groupsOf_eq_ok_iff.mpr ⟨kept, hkept, rfl⟩
    rw [ofUnits_of_ok hunits, ofUnits_of_ok hothers, hflatten, selection.apply_filter_exclude]

/-- Its second line is indented by one column less than its first one. -/
def brokenUnit : DocUnit := ⟨.callable "seed" 0, 5, "    iex> seed()\n   7"⟩

def unclosedUnit : DocUnit := ⟨.moduledoc, 1, "iex(1 seed()"⟩

def soundUnit : DocUnit := ⟨.callable "add" 2, 10, "iex> add(1, 1)\n2"⟩

def withoutSeed : Selection := { exclude := [.callable "seed" 0] }

theorem fails_brokenUnit : brokenUnit.Fails (.indentationMismatch 7 "   7" 4) := by
  rw [DocUnit.Fails]
  decide +kernel

theorem fails_unclosedUnit : unclosedUnit.Fails (.unknownPrompt 2 "iex(1 seed()") := by
  rw [DocUnit.Fails]
  decide +kernel

/-- The broken unit is left out, and still there are no tests. -/
theorem excluded_unit_decides :
    ([brokenUnit, soundUnit].filter (·.identifier ∉ withoutSeed.exclude)) = [soundUnit] ∧
    ofUnits "Sums" withoutSeed [] [brokenUnit, soundUnit] =
      .error (.indentationMismatch 7 "   7" 4) ∧
    (ofUnits "Sums" withoutSeed [] [soundUnit]).map (·.map (·.name)) = .ok ["Sums.add/2 (1)"] ∧
    ofUnits "Sums" withoutSeed [] [brokenUnit, soundUnit] ≠
      ofUnits "Sums" withoutSeed []
        ([brokenUnit, soundUnit].filter (·.identifier ∉ withoutSeed.exclude)) := by
  have hothers : [brokenUnit, soundUnit].filter (·.identifier ∉ withoutSeed.exclude) =
      [soundUnit] := rfl
  have hbroken : ofUnits "Sums" withoutSeed [] [brokenUnit, soundUnit] =
      .error (.indentationMismatch 7 "   7" 4) :=
    ofUnits_of_failsFirst (.head fails_brokenUnit)
  have hnames : (ofUnits "Sums" withoutSeed [] [soundUnit]).map (·.map (·.name)) =
      .ok ["Sums.add/2 (1)"] := by decide +kernel
  refine ⟨hothers, hbroken, hnames, ?_⟩
  rw [hothers, hbroken]
  intro hsame
  rw [← hsame] at hnames
  cases hnames

/-- A unit in front of the broken one decides. -/
theorem ofUnits_without_seed :
    ofUnits "Sums" withoutSeed [] [brokenUnit, soundUnit] =
      .error (.indentationMismatch 7 "   7" 4) ∧
    ofUnits "Sums" withoutSeed [] [unclosedUnit, soundUnit] =
      ofUnits "Sums" withoutSeed [] [unclosedUnit, brokenUnit, soundUnit] ∧
    ∃ tests, ofUnits "Sums" sampleSelection [] sampleUnits = .ok tests ∧
      ∀ t ∈ tests, t.group.identifier ∉ sampleSelection.exclude := by
  refine ⟨?_, ?_, ?_⟩
  · exact (ofUnits_without_excluded "Sums" withoutSeed [] _).1 _ _ (.head fails_brokenUnit)
  · refine (ofUnits_without_excluded "Sums" withoutSeed []
      [unclosedUnit, brokenUnit, soundUnit]).2.1 fun u d hu => ?_
    rcases isFirst_cons_iff.mp hu.first with ⟨-, rfl⟩ | ⟨hno, -⟩
    · decide
    · exact (hno ⟨_, fails_unclosedUnit⟩).elim
  · obtain ⟨tests, htests, -⟩ := exists_sampleTests
    exact ⟨tests, htests, (ofUnits_without_excluded "Sums" sampleSelection [] sampleUnits).2.2
      tests htests⟩

end Listing

end DocExamples
