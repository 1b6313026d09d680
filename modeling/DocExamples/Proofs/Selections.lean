import DocExamples.Proofs.Listings

/-!
# What a selection finds

A selection that succeeds lists the groups it asks for by their lines (`Selects`), and fails exactly
if it asks for an identifier that it finds nothing for.  It reads its entries as two sets, so that
neither their order nor their number counts (`SameEntries`).
-/

namespace DocExamples.Selection

/-! ### What is asked for, and what is not found -/

section Entries

variable (s : Selection)

/-- Nothing is found for the identifier, as it is left out or no group has it.  The module itself
need not be found. -/
def Misses (groups : List Group) (i : Identifier) : Prop :=
  i ≠ .moduledoc ∧ (i ∈ s.exclude ∨ ∀ g ∈ groups, g.identifier ≠ i)

instance (groups : List Group) (i : Identifier) : Decidable (s.Misses groups i) := by
  unfold Misses; infer_instance

theorem filter_keeps (groups : List Group) :
    groups.filter (s.keeps ·.identifier) = groups.filter (s.Wants ·.identifier) := by
  apply List.filter_congr
  intro g _
  rw [Bool.eq_iff_iff, keeps_iff, decide_eq_true_iff]

variable {s}

theorem wants_iff_of_mem {i : Identifier} (h : i ∈ s.only.getD []) :
    s.Wants i ↔ i ∉ s.exclude := by
  unfold Wants
  cases honly : s.only with
  | none =>
    rw [honly] at h
    cases h
  | some only =>
    rw [honly] at h
    have hmem : i ∈ only := h
    simp [hmem]

theorem mem_kept_iff {groups : List Group} {i : Identifier} :
    i ∈ (groups.filter (s.keeps ·.identifier)).map (·.identifier) ↔
      s.Wants i ∧ ∃ g ∈ groups, g.identifier = i := by
  rw [List.mem_map]
  constructor
  · rintro ⟨g, hg, rfl⟩
    obtain ⟨hg, hkept⟩ := List.mem_filter.mp hg
    exact ⟨(s.keeps_iff _).mp hkept, g, hg, rfl⟩
  · rintro ⟨hwants, g, hg, rfl⟩
    exact ⟨g, List.mem_filter.mpr ⟨hg, (s.keeps_iff _).mpr hwants⟩, rfl⟩

/-- The entries that nothing is found for, each as often as it is asked for. -/
theorem missing_eq (groups : List Group) :
    s.missing groups = (s.only.getD []).filter (s.Misses groups ·) := by
  unfold missing
  apply List.filter_congr
  intro i hi
  have hlost : i ∉ (groups.filter (s.keeps ·.identifier)).map (·.identifier) ↔
      i ∈ s.exclude ∨ ∀ g ∈ groups, g.identifier ≠ i := by
    rw [mem_kept_iff, wants_iff_of_mem hi, not_and_or, not_not]
    simp
  rw [Bool.eq_iff_iff, Bool.and_eq_true, Bool.not_eq_true', ← Bool.not_eq_true,
    List.contains_iff_mem, hlost, decide_eq_true_iff, decide_eq_true_iff]
  rfl

theorem missing_eq_nil_iff {groups : List Group} :
    s.missing groups = [] ↔ ∀ i ∈ s.only.getD [], ¬s.Misses groups i := by
  rw [missing_eq, List.filter_eq_nil_iff]
  simp

end Entries

/-! ### Entries as sets -/

/-- The selections have the same entries, in whatever order and however often. -/
structure SameEntries (s t : Selection) : Prop where
  only : Option.Rel (fun xs ys => ∀ i, i ∈ xs ↔ i ∈ ys) s.only t.only
  exclude : ∀ i, i ∈ s.exclude ↔ i ∈ t.exclude

theorem SameEntries.mem_only_iff {s t : Selection} (h : SameEntries s t) (i : Identifier) :
    i ∈ s.only.getD [] ↔ i ∈ t.only.getD [] := by
  obtain ⟨only, exclude⟩ := s
  obtain ⟨others, excluded⟩ := t
  rcases h with ⟨honly, -⟩
  cases honly with
  | none => rfl
  | some hmem => exact hmem i

theorem SameEntries.keeps_eq {s t : Selection} (h : SameEntries s t) (i : Identifier) :
    s.keeps i = t.keeps i := by
  rw [Bool.eq_iff_iff, keeps_iff, keeps_iff]
  unfold Wants
  obtain ⟨only, exclude⟩ := s
  obtain ⟨others, excluded⟩ := t
  rcases h with ⟨honly, hexclude⟩
  cases honly with
  | none => simp [hexclude i]
  | some hmem => simp [hexclude i, hmem i]

/-- A selection that succeeds may name its entries in any order, and more than once. -/
theorem SameEntries.apply_eq {s t : Selection} (h : SameEntries s t) {groups found : List Group}
    (hfound : s.apply groups = .ok found) : t.apply groups = .ok found := by
  rw [apply_eq_ok_iff, missing_eq_nil_iff] at hfound ⊢
  obtain ⟨hnone, rfl⟩ := hfound
  constructor
  · intro i hi hmisses
    apply hnone i ((h.mem_only_iff i).mpr hi)
    exact ⟨hmisses.1, hmisses.2.imp_left (h.exclude i).mpr⟩
  · simp only [h.keeps_eq]

/-! ### What is found -/

/-- The groups are those that are asked for, by the lines they start on; groups of one line stand in
the order they came in. -/
structure Selects (s : Selection) (groups found : List Group) : Prop where
  perm : found.Perm (groups.filter (s.Wants ·.identifier))
  ordered : found.Pairwise fun g later => g.startLine ≤ later.startLine
  stable : ∀ n : Int, found.filter (·.startLine = n) =
    (groups.filter (s.Wants ·.identifier)).filter (·.startLine = n)

section Found

variable {s : Selection} {groups found : List Group}

theorem selects_of_apply (h : s.apply groups = .ok found) : Selects s groups found := by
  obtain ⟨-, rfl⟩ := apply_eq_ok_iff.mp h
  rw [filter_keeps]
  exact ⟨perm_sortByLine _, pairwise_sortByLine _, filter_sortByLine _⟩

/-- What was found is found again among itself. -/
theorem apply_found (h : s.apply groups = .ok found) : s.apply found = .ok found := by
  obtain ⟨hmissing, hfound⟩ := apply_eq_ok_iff.mp h
  have hselects := selects_of_apply h
  have hperm := hselects.perm
  rw [← filter_keeps] at hperm
  have hall : found.filter (s.keeps ·.identifier) = found := by
    rw [List.filter_eq_self]
    intro g hg
    exact (List.mem_filter.mp (hperm.mem_iff.mp hg)).2
  rw [apply_eq_ok_iff, hall]
  constructor
  · have hsame : (found.filter (s.keeps ·.identifier)).Perm
        (groups.filter (s.keeps ·.identifier)) := by
      rw [hall]
      exact hperm
    rw [s.missing_congr hsame, hmissing]
  · exact (sortByLine_of_pairwise hselects.ordered).symm

theorem exists_error_iff {only : List Identifier} (honly : s.only = some only) :
    (∃ d, s.apply groups = .error d) ↔ ∃ i ∈ only, s.Misses groups i := by
  simp only [apply_eq_error_iff, exists_and_left, exists_eq, and_true, ne_eq, missing_eq_nil_iff,
    honly, Option.getD_some, not_forall, not_not, exists_prop]

end Found

/-- **A selection finds what it asks for, or names what it misses.**  What it finds is listed by
line and is found again among itself, and depends on the entries as sets only.  It fails exactly if
it misses an entry, and then names the missed entries as they were given.  Without entries to keep,
it never fails. -/
theorem apply_selects (s : Selection) (groups : List Group) :
    (∀ found, s.apply groups = .ok found →
      Selects s groups found ∧ s.apply found = .ok found ∧
        ∀ t, SameEntries s t → t.apply groups = .ok found) ∧
    (∀ only, s.only = some only →
      ((∃ d, s.apply groups = .error d) ↔ ∃ i ∈ only, s.Misses groups i) ∧
      ∀ d, s.apply groups = .error d → d.kind = .undefinedSelector ∧
        ∀ place : Place, d.message place =
          "undefined or private " ++
            (if (only.filter (s.Misses groups ·)).length = 1 then "function" else "functions") ++
            " given to doctest:\n\n    " ++
            String.intercalate "\n    "
              ((only.filter (s.Misses groups ·)).map (·.format place.name)) ++ "\n\n") ∧
    (s.only = none ∨ s.only = some [] → ∃ found, s.apply groups = .ok found) := by
  refine ⟨?_, ?_, ?_⟩
  · intro found h
    exact ⟨selects_of_apply h, apply_found h, fun t hsame => hsame.apply_eq h⟩
  · intro only honly
    refine ⟨exists_error_iff honly, ?_⟩
    intro d h
    obtain ⟨-, rfl⟩ := apply_eq_error_iff.mp h
    refine ⟨rfl, ?_⟩
    intro place
    rw [missing_eq, honly]
    rfl
  · intro honly
    have hempty : s.only.getD [] = [] := by
      rcases honly with honly | honly <;> rw [honly] <;> rfl
    refine ⟨_, apply_eq_ok_iff.mpr ⟨?_, rfl⟩⟩
    rw [missing_eq, hempty]
    rfl

def twoOwners : List Group :=
  [⟨40, .callable "add" 2, []⟩, ⟨12, .callable "sub" 2, []⟩, ⟨12, .callable "add" 2, []⟩,
    ⟨3, .moduledoc, []⟩]

theorem apply_twoOwners :
    ({ only := some [.callable "sub" 2, .callable "add" 2] } : Selection).apply twoOwners =
      .ok [⟨12, .callable "sub" 2, []⟩, ⟨12, .callable "add" 2, []⟩, ⟨40, .callable "add" 2, []⟩] ∧
    ({ only := some [.callable "add" 2, .callable "sub" 2, .callable "add" 2] } :
        Selection).apply twoOwners =
      .ok [⟨12, .callable "sub" 2, []⟩, ⟨12, .callable "add" 2, []⟩, ⟨40, .callable "add" 2, []⟩] ∧
    ∃ d, ({ only := some [.callable "foo" 1, .moduledoc, .callable "sub" 2, .callable "foo" 1],
            exclude := [.callable "sub" 2] } : Selection).apply twoOwners = .error d ∧
      d.message { name := some "Sums" } = "undefined or private functions given to doctest:\n\n" ++
        "    Sums.foo/1\n    Sums.sub/2\n    Sums.foo/1\n\n" := by
  have hfound : ({ only := some [.callable "sub" 2, .callable "add" 2] } : Selection).apply
      twoOwners = .ok [⟨12, .callable "sub" 2, []⟩, ⟨12, .callable "add" 2, []⟩,
        ⟨40, .callable "add" 2, []⟩] := by decide
  refine ⟨hfound, ?_, ?_⟩
  · apply ((apply_selects _ twoOwners).1 _ hfound).2.2
    refine ⟨.some fun i => ?_, fun i => Iff.rfl⟩
    simp only [List.mem_cons, List.not_mem_nil, or_false]
    tauto
  · obtain ⟨hfails, hmessage⟩ := (apply_selects
      { only := some [.callable "foo" 1, .moduledoc, .callable "sub" 2, .callable "foo" 1],
        exclude := [.callable "sub" 2] } twoOwners).2.1 _ rfl
    obtain ⟨d, hd⟩ := hfails.mpr ⟨.callable "sub" 2, by decide, by decide⟩
    refine ⟨d, hd, ?_⟩
    rw [(hmessage d hd).2]
    decide +kernel

end DocExamples.Selection
