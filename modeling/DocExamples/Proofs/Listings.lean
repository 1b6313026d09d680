import DocExamples.Listing
import DocExamples.Proofs.GroupPlaces
import Mathlib.Data.List.Perm.Basic
import Mathlib.Data.List.Sort
import Std.Data.String.ToNat

/-!
# Listings

The tests of a module are listed by the lines they start on and numbered, and the numbers make their
names different (`Lists`).  The groups of one unit start on lines of their own.  So if no two units
share a line, then the listing does not depend on the order of the units, and for a single unit the
listing is the order of the document (`ofUnits_lists`).
-/

namespace DocExamples

open Transducer

/-! ### Sorting by lines -/

/-- The first group does not start behind the second one. -/
def Group.InOrder (g h : Group) : Prop := g.startLine ≤ h.startLine

instance : DecidableRel Group.InOrder :=
  fun g h => inferInstanceAs (Decidable (g.startLine ≤ h.startLine))

instance : Std.Total Group.InOrder := ⟨fun g h => Int.le_total g.startLine h.startLine⟩

instance : IsTrans Group Group.InOrder := ⟨fun _ _ _ => Int.le_trans⟩

namespace Selection

theorem sortByLine_eq_insertionSort (groups : List Group) :
    sortByLine groups = groups.insertionSort Group.InOrder := by
  have hinsert : ∀ g sorted, insertByLine g sorted = sorted.orderedInsert Group.InOrder g := by
    intro g sorted
    induction sorted with
    | nil => rfl
    | cons h rest ih =>
      rw [insertByLine, List.orderedInsert_cons, ih]
      rfl
  induction groups with
  | nil => rfl
  | cons g groups ih =>
    rw [List.insertionSort_cons, ← ih, ← hinsert]
    rfl

theorem perm_sortByLine (groups : List Group) : (sortByLine groups).Perm groups := by
  rw [sortByLine_eq_insertionSort]
  exact List.perm_insertionSort _ groups

theorem pairwise_sortByLine (groups : List Group) :
    (sortByLine groups).Pairwise Group.InOrder := by
  rw [sortByLine_eq_insertionSort]
  exact List.pairwise_insertionSort _ groups

/-- Groups that start on one line keep their order. -/
theorem filter_sortByLine (groups : List Group) (n : Int) :
    (sortByLine groups).filter (·.startLine = n) = groups.filter (·.startLine = n) := by
  have hline : (groups.filter (·.startLine = n)).Pairwise Group.InOrder := by
    refine List.pairwise_of_forall_mem_list fun g hg h hh => ?_
    have hg := of_decide_eq_true (List.mem_filter.mp hg).2
    have hh := of_decide_eq_true (List.mem_filter.mp hh).2
    rw [Group.InOrder, hg, hh]
  have hsublist : (groups.filter (·.startLine = n)).Sublist (sortByLine groups) := by
    rw [sortByLine_eq_insertionSort]
    exact List.sublist_insertionSort hline List.filter_sublist
  have hfilter := hsublist.filter (·.startLine = n)
  simp only [List.filter_filter, Bool.and_self] at hfilter
  exact (hfilter.eq_of_length ((perm_sortByLine groups).filter _).length_eq.symm).symm

theorem sortByLine_of_pairwise {groups : List Group} (h : groups.Pairwise Group.InOrder) :
    sortByLine groups = groups := by
  rw [sortByLine_eq_insertionSort, h.insertionSort_eq]

/-- Groups on lines of their own have one order. -/
theorem sortByLine_congr {groups others : List Group} (hperm : groups.Perm others)
    (hlines : (groups.map (·.startLine)).Nodup) : sortByLine groups = sortByLine others := by
  have hgroups := perm_sortByLine groups
  refine List.Perm.eq_of_pairwise ?_ (pairwise_sortByLine groups) (pairwise_sortByLine others)
    (hgroups.trans (hperm.trans (perm_sortByLine others).symm))
  intro g h hg hh hle hge
  have hh' : h ∈ groups := hperm.mem_iff.mpr ((perm_sortByLine others).mem_iff.mp hh)
  exact List.inj_on_of_nodup_map hlines (hgroups.mem_iff.mp hg) hh' (Int.le_antisymm hle hge)

end Selection

/-! ### Units -/

namespace Transcript

theorem identifier_of_mem_groupsOf {identifier : Identifier} {lines : List SourceLine} {g : Group}
    (h : g ∈ groupsOf identifier lines) : g.identifier = identifier := by
  obtain ⟨segment, -, hsegment⟩ := List.mem_filterMap.mp h
  rw [groupOf] at hsegment
  split at hsegment
  · cases hsegment
  · cases hsegment
    rfl

section Extraction

variable {identifier : Identifier} {doc : String} {line : Int} {groups : List Group}

theorem identifier_of_extract (h : extract identifier doc line = .ok groups) :
    ∀ g ∈ groups, g.identifier = identifier := by
  intro g hg
  rw [eq_groupsOf_visits h] at hg
  exact identifier_of_mem_groupsOf hg

theorem pairwise_startLine_of_extract (h : extract identifier doc line = .ok groups) :
    groups.Pairwise fun g later => g.startLine < later.startLine := by
  rw [eq_groupsOf_visits h]
  refine (pairwise_groupsOf (counts_documentVisits h) (newline_not_mem_documentVisits h)).imp ?_
  intro g later hlater
  omega

end Extraction

end Transcript

namespace Listing

theorem mapM_eq_ok_iff {α β ε : Type} {f : α → Except ε β} {xs : List α} {ys : List β} :
    xs.mapM f = .ok ys ↔ List.Forall₂ (fun x y => f x = .ok y) xs ys := by
  induction xs generalizing ys with
  | nil =>
    rw [List.forall₂_nil_left_iff]
    exact ⟨fun h => by cases h; rfl, fun h => by rw [h]; rfl⟩
  | cons x xs ih =>
    rw [List.mapM_cons, List.forall₂_cons_left_iff]
    constructor
    · intro h
      obtain ⟨y, hx, h⟩ := exists_of_bind_eq_ok h
      obtain ⟨rest, hrest, h⟩ := exists_of_bind_eq_ok h
      cases h
      exact ⟨y, rest, hx, ih.mp hrest, rfl⟩
    · rintro ⟨y, rest, hx, hrest, rfl⟩
      rw [hx, ih.mpr hrest]
      rfl

/-- The groups of each unit. -/
def Found (units : List DocUnit) (found : List (List Group)) : Prop :=
  List.Forall₂ (fun u groups => Transcript.extract u.identifier u.text u.line = .ok groups) units
    found

theorem groupsOf_eq_ok_iff {units : List DocUnit} {groups : List Group} :
    groupsOf units = .ok groups ↔ ∃ found, Found units found ∧ groups = found.flatten := by
  rw [groupsOf]
  constructor
  · intro h
    obtain ⟨found, hfound, h⟩ := exists_of_bind_eq_ok h
    cases h
    exact ⟨found, mapM_eq_ok_iff.mp hfound, rfl⟩
  · rintro ⟨found, hfound, rfl⟩
    rw [mapM_eq_ok_iff.mpr hfound]
    rfl

/-- The groups of some of the units, chosen by what they document. -/
theorem exists_found_filter (p : Identifier → Bool) {units : List DocUnit}
    {found : List (List Group)} (h : Found units found) :
    ∃ kept, Found (units.filter (p ·.identifier)) kept ∧
      kept.flatten = found.flatten.filter (p ·.identifier) := by
  induction h with
  | nil => exact ⟨[], .nil, rfl⟩
  | @cons u groups units found hu _ ih =>
    obtain ⟨kept, hkept, hflatten⟩ := ih
    have hidentifier := Transcript.identifier_of_extract hu
    cases hp : p u.identifier with
    | true =>
      have hall : groups.filter (p ·.identifier) = groups := by
        rw [List.filter_eq_self]
        intro g hg
        rw [hidentifier g hg, hp]
      refine ⟨groups :: kept, ?_, ?_⟩
      · rw [List.filter_cons, hp]
        exact .cons hu hkept
      · rw [List.flatten_cons, List.flatten_cons, List.filter_append, hall, hflatten]
    | false =>
      have hnone : groups.filter (p ·.identifier) = [] := by
        rw [List.filter_eq_nil_iff]
        intro g hg
        rw [hidentifier g hg, hp]
        exact Bool.false_ne_true
      refine ⟨kept, ?_, ?_⟩
      · rw [List.filter_cons, hp]
        exact hkept
      · rw [List.flatten_cons, List.filter_append, hnone, List.nil_append, hflatten]

end Listing

/-! ### Selections -/

namespace Selection

/-- The selection asks for the groups of the identifier. -/
def Wants (s : Selection) (i : Identifier) : Prop := i ∉ s.exclude ∧ ∀ only ∈ s.only, i ∈ only

instance (s : Selection) (i : Identifier) : Decidable (s.Wants i) := by unfold Wants; infer_instance

theorem keeps_iff (s : Selection) (i : Identifier) : s.keeps i = true ↔ s.Wants i := by
  unfold keeps Wants
  rw [Bool.and_eq_true, Bool.not_eq_true', ← Bool.not_eq_true, List.contains_iff_mem]
  cases s.only with
  | none => simp
  | some only => simp

/-- What a selection misses depends on the groups it keeps. -/
theorem missing_congr (s : Selection) {groups others : List Group}
    (h : (groups.filter (s.keeps ·.identifier)).Perm (others.filter (s.keeps ·.identifier))) :
    s.missing groups = s.missing others := by
  have hmem := fun i => (h.map (·.identifier)).mem_iff (a := i)
  rw [missing, missing]
  refine List.filter_congr fun i _ => ?_
  congr 2
  rw [Bool.eq_iff_iff, List.contains_iff_mem, List.contains_iff_mem, hmem]

theorem apply_eq_ok_iff {s : Selection} {groups sorted : List Group} :
    s.apply groups = .ok sorted ↔
      s.missing groups = [] ∧ sorted = sortByLine (groups.filter (s.keeps ·.identifier)) := by
  rw [apply]
  cases s.missing groups with
  | nil => simp [eq_comm]
  | cons i rest => simp

theorem apply_eq_error_iff {s : Selection} {groups : List Group} {d : Defect} :
    s.apply groups = .error d ↔
      s.missing groups ≠ [] ∧ d = .undefinedSelectors (s.missing groups) := by
  unfold apply
  cases s.missing groups with
  | nil => simp
  | cons i rest => simp [eq_comm]

theorem apply_none (groups : List Group) :
    ({} : Selection).apply groups = .ok (sortByLine groups) := by
  have hall : groups.filter (({} : Selection).keeps ·.identifier) = groups :=
    List.filter_eq_self.mpr fun _ _ => rfl
  rw [apply_eq_ok_iff, hall]
  exact ⟨rfl, rfl⟩

end Selection

/-! ### Names -/

namespace Listing

theorem eq_of_append_cons {α : Type} {c : α} {xs ys front back : List α} (hxs : c ∉ xs)
    (hys : c ∉ ys) (h : front ++ c :: xs = back ++ c :: ys) : xs = ys := by
  rcases List.append_eq_append_iff.mp h with ⟨more, -, hmore⟩ | ⟨more, -, hmore⟩
  · cases more with
    | nil => exact (List.cons.inj hmore).2
    | cons d more =>
      rw [(List.cons.inj hmore).2] at hxs
      exact (hxs (by simp)).elim
  · cases more with
    | nil => exact (List.cons.inj hmore).2.symm
    | cons d more =>
      rw [(List.cons.inj hmore).2] at hys
      exact (hys (by simp)).elim

theorem bracket_not_mem_repr (n : Nat) : '(' ∉ n.repr.toList := by
  intro h
  rw [Nat.toList_repr] at h
  have hdigit := Nat.isDigit_of_mem_toDigits (by decide) (by decide) h
  cases hdigit

/-- The last bracket of a name opens its number. -/
theorem number_eq_of_name_eq {owner other : String} {m n : Nat}
    (h : owner ++ " (" ++ toString m ++ ")" = other ++ " (" ++ toString n ++ ")") : m = n := by
  have hchars := congrArg String.toList h
  simp only [String.toList_append] at hchars
  have hfront := List.append_cancel_right hchars
  have hopen : ∀ cs ds : List Char, cs ++ " (".toList ++ ds = (cs ++ [' ']) ++ '(' :: ds := by
    intro cs ds
    rw [List.append_assoc, List.append_assoc]
    rfl
  rw [hopen, hopen] at hfront
  have hdigits := eq_of_append_cons (bracket_not_mem_repr m) (bracket_not_mem_repr n) hfront
  exact Nat.repr_inj.mp (String.toList_injective hdigits)

/-! ### Listings of groups -/

/-- Every test has the name of its identifier, with its place as a number. -/
def Named (module : String) (tests : List NamedTest) : Prop :=
  ∀ (i : Nat) (t : NamedTest), tests[i]? = some t →
    t.name = t.group.identifier.format (some module) ++ " (" ++ toString (i + 1) ++ ")"

/-- The tests list the groups: each group once, by the lines they start on, on one line in the
order of the groups, and under names of their own. -/
structure Lists (module : String) (groups : List Group) (tests : List NamedTest) : Prop where
  perm : (tests.map (·.group)).Perm groups
  ordered : (tests.map (·.group)).Pairwise fun g later => g.startLine ≤ later.startLine
  stable : ∀ n : Int,
    (tests.map (·.group)).filter (·.startLine = n) = groups.filter (·.startLine = n)
  named : Named module tests
  distinct : (tests.map (·.name)).Nodup

theorem named_forModule (module : String) (extra : List (String × Json)) (groups : List Group) :
    Named module (forModule module extra groups) := by
  intro i t h
  rw [forModule, number, List.getElem?_map, List.getElem?_zipIdx, Option.map_map,
    Option.map_eq_some_iff] at h
  obtain ⟨g, -, rfl⟩ := h
  rw [Nat.zero_add]
  rfl

theorem Named.nodup {module : String} {tests : List NamedTest} (h : Named module tests) :
    (tests.map (·.name)).Nodup := by
  rw [List.Nodup, List.pairwise_map, List.pairwise_iff_getElem]
  intro i j hi hj hlt heq
  rw [h i _ (List.getElem?_eq_getElem hi), h j _ (List.getElem?_eq_getElem hj)] at heq
  have hnumbers := number_eq_of_name_eq heq
  omega

theorem lists_forModule (module : String) (extra : List (String × Json)) (groups : List Group) :
    Lists module groups (forModule module extra (Selection.sortByLine groups)) := by
  have hgroups : (forModule module extra (Selection.sortByLine groups)).map (·.group) =
      Selection.sortByLine groups := map_group_number _ _ _ _
  have hnamed := named_forModule module extra (Selection.sortByLine groups)
  refine ⟨?_, ?_, ?_, hnamed, hnamed.nodup⟩
  · rw [hgroups]
    exact Selection.perm_sortByLine groups
  · rw [hgroups]
    exact Selection.pairwise_sortByLine groups
  · intro n
    rw [hgroups]
    exact Selection.filter_sortByLine groups n

section Outcomes

variable {module : String} {selection : Selection} {extra : List (String × Json)}
  {units : List DocUnit}

theorem ofUnits_of_ok {groups : List Group} (h : groupsOf units = .ok groups) :
    ofUnits module selection extra units =
      (selection.apply groups).map (forModule module extra) := by
  rw [ofUnits, h]
  change (selection.apply groups >>= fun sorted => pure (forModule module extra sorted)) = _
  cases selection.apply groups <;> rfl

theorem ofUnits_of_error {d : Defect} (h : groupsOf units = .error d) :
    ofUnits module selection extra units = .error d := by
  rw [ofUnits, h]
  rfl

theorem ofUnits_eq_ok_iff {tests : List NamedTest} :
    ofUnits module selection extra units = .ok tests ↔
      ∃ found, Found units found ∧ selection.missing found.flatten = [] ∧
        tests = forModule module extra
          (Selection.sortByLine (found.flatten.filter (selection.keeps ·.identifier))) := by
  constructor
  · intro h
    obtain ⟨groups, hunits, h⟩ := exists_of_bind_eq_ok h
    obtain ⟨sorted, hsorted, h⟩ := exists_of_bind_eq_ok h
    cases h
    obtain ⟨found, hfound, rfl⟩ := groupsOf_eq_ok_iff.mp hunits
    obtain ⟨hmissing, rfl⟩ := Selection.apply_eq_ok_iff.mp hsorted
    exact ⟨found, hfound, hmissing, rfl⟩
  · rintro ⟨found, hfound, hmissing, rfl⟩
    rw [ofUnits_of_ok (groupsOf_eq_ok_iff.mpr ⟨found, hfound, rfl⟩),
      Selection.apply_eq_ok_iff.mpr ⟨hmissing, rfl⟩]
    rfl

theorem ofUnits_of_perm {others : List DocUnit} {found : List (List Group)}
    (hfound : Found units found) (hmissing : selection.missing found.flatten = [])
    (hlines : ((found.flatten.filter (selection.keeps ·.identifier)).map (·.startLine)).Nodup)
    (hperm : others.Perm units) :
    ofUnits module selection extra others = .ok (forModule module extra
      (Selection.sortByLine (found.flatten.filter (selection.keeps ·.identifier)))) := by
  -- The other units give the same lists of groups, in their own order.
  obtain ⟨found', hfound', hsame⟩ := List.perm_comp_forall₂ hperm hfound
  have hkept : (found'.flatten.filter (selection.keeps ·.identifier)).Perm
      (found.flatten.filter (selection.keeps ·.identifier)) := hsame.flatten.filter _
  refine ofUnits_eq_ok_iff.mpr ⟨found', hfound', ?_, ?_⟩
  · rw [selection.missing_congr hkept, hmissing]
  · rw [Selection.sortByLine_congr hkept.symm hlines]

/-- A unit has no two groups on one line. -/
theorem nodup_startLine {found : List (List Group)} (hfound : Found units found)
    (hapart : found.Pairwise fun groups others =>
      ∀ g ∈ groups, ∀ o ∈ others, g.startLine ≠ o.startLine) :
    (found.flatten.map (·.startLine)).Nodup := by
  rw [List.Nodup, List.pairwise_map, List.pairwise_flatten]
  refine ⟨fun groups hgroups => ?_, hapart⟩
  obtain ⟨i, hi, rfl⟩ := List.getElem_of_mem hgroups
  have hunit := hfound.get (hfound.length_eq ▸ hi) hi
  exact (Transcript.pairwise_startLine_of_extract hunit).imp fun h => Int.ne_of_lt h

/-- A single unit is listed as its document is. -/
theorem map_group_ofUnits_moduledoc (text : String) :
    (ofUnits module {} extra [⟨.moduledoc, 0, text⟩]).map (·.map (·.group)) =
      Transcript.extract .moduledoc text 0 := by
  cases htext : Transcript.extract .moduledoc text 0 with
  | error d =>
    have hunits : groupsOf [⟨.moduledoc, 0, text⟩] = .error d := by
      rw [groupsOf, List.mapM_cons, htext]
      rfl
    rw [ofUnits_of_error hunits]
    rfl
  | ok groups =>
    have hunits : groupsOf [⟨.moduledoc, 0, text⟩] = .ok groups := by
      refine groupsOf_eq_ok_iff.mpr ⟨[groups], .cons htext .nil, ?_⟩
      rw [List.flatten_singleton]
    have hsorted : groups.Pairwise Group.InOrder :=
      (Transcript.pairwise_startLine_of_extract htext).imp fun h => Int.le_of_lt h
    rw [ofUnits_of_ok hunits, Selection.apply_none, Selection.sortByLine_of_pairwise hsorted]
    exact congrArg Except.ok (map_group_number _ _ _ groups)

theorem map_group_ofDocument (path text : String) :
    (ofDocument path extra text).map (·.map (·.group)) =
      Transcript.extract .moduledoc text 0 := by
  rw [ofDocument]
  cases Transcript.extract .moduledoc text 0 with
  | error d => rfl
  | ok groups => exact congrArg Except.ok (map_group_number _ _ _ groups)

end Outcomes

/-- **The tests of a module are listed by line, whatever the order of its units.**  They are those
of the units that are kept, and no two have one name.  If these units have no line in common, then
another order of the units gives the same tests.  A whole document is listed as the only unit of a
module. -/
theorem ofUnits_lists (module : String) (selection : Selection) (extra : List (String × Json)) :
    (∀ units tests, ofUnits module selection extra units = .ok tests →
      ∃ found, Found (units.filter (selection.keeps ·.identifier)) found ∧
        Lists module found.flatten tests ∧
        ((found.Pairwise fun groups others =>
            ∀ g ∈ groups, ∀ o ∈ others, g.startLine ≠ o.startLine) →
          ∀ others, others.Perm units → ofUnits module selection extra others = .ok tests)) ∧
    ∀ path text, (ofUnits path {} extra [⟨.moduledoc, 0, text⟩]).map (·.map (·.group)) =
      (ofDocument path extra text).map (·.map (·.group)) := by
  constructor
  · intro units tests h
    obtain ⟨all, hall, hmissing, rfl⟩ := ofUnits_eq_ok_iff.mp h
    obtain ⟨found, hfound, hflatten⟩ := exists_found_filter selection.keeps hall
    refine ⟨found, hfound, ?_, ?_⟩
    · rw [← hflatten]
      exact lists_forModule module extra found.flatten
    · intro hapart others hperm
      have hlines := nodup_startLine hfound hapart
      rw [hflatten] at hlines
      exact ofUnits_of_perm hall hmissing hlines hperm
  · intro path text
    rw [map_group_ofUnits_moduledoc, map_group_ofDocument]

def sampleUnits : List DocUnit :=
  [⟨.callable "add" 2, 10, "iex> add(1, 1)\n2\n\niex> add(2, 2)\n4"⟩,
    ⟨.callable "seed" 0, 0, "iex> seed()\n7"⟩, ⟨.moduledoc, 2, "iex> 3\n3"⟩]

def sampleSelection : Selection := { exclude := [.callable "seed" 0] }

theorem exists_sampleTests :
    ∃ tests, ofUnits "Sums" sampleSelection [] sampleUnits = .ok tests ∧
      tests.map (·.name) = ["module Sums (1)", "Sums.add/2 (2)", "Sums.add/2 (3)"] := by
  have hnames : (ofUnits "Sums" sampleSelection [] sampleUnits).map (·.map (·.name)) =
      .ok ["module Sums (1)", "Sums.add/2 (2)", "Sums.add/2 (3)"] := by decide +kernel
  exact exists_of_map_eq_ok hnames

theorem ofUnits_lists_sample :
    ∃ tests, ofUnits "Sums" sampleSelection [] sampleUnits = .ok tests ∧
      tests.map (·.name) = ["module Sums (1)", "Sums.add/2 (2)", "Sums.add/2 (3)"] ∧
      (tests.map (·.name)).Nodup ∧
      ofUnits "Sums" sampleSelection [] sampleUnits.reverse = .ok tests := by
  obtain ⟨tests, htests, hnames⟩ := exists_sampleTests
  obtain ⟨found, hfound, hlists, horder⟩ :=
    (ofUnits_lists "Sums" sampleSelection []).1 sampleUnits tests htests
  refine ⟨tests, htests, hnames, hlists.distinct, ?_⟩
  have hunits : (sampleUnits.filter (sampleSelection.keeps ·.identifier)).mapM
      (fun u => Transcript.extract u.identifier u.text u.line) = .ok
        [[⟨11, .callable "add" 2, [⟨["add(1, 1)"], "2", "\niex> add(1, 1)\n2"⟩]⟩,
          ⟨14, .callable "add" 2, [⟨["add(2, 2)"], "4", "\niex> add(2, 2)\n4"⟩]⟩],
        [⟨3, .moduledoc, [⟨["3"], "3", "\niex> 3\n3"⟩]⟩]] := by decide +kernel
  have hsame := mapM_eq_ok_iff.mpr hfound
  rw [hunits] at hsame
  cases hsame
  exact horder (by decide) _ sampleUnits.reverse_perm

end Listing

end DocExamples
