import DocExamples.Proofs.GroupPlaces
import DocExamples.Proofs.MarginFaults
import DocExamples.Proofs.WrittenFaults

/-!
# What is wrong with a document

A document is read in three phases, and each of them can find one kind of fault: a line does not
keep the margin, the number of a prompt is not closed, a group expects two exceptions.  The first
phase that finds one decides, and the first such line or group.  The relation `Extracts` says so
without the readers, and the main statement is that it gives the one result of an extraction
(`extract_outcome`).  A fault on a line of too many digits cannot be written out
(`fault_unwritten_of_long_line`).
-/

namespace DocExamples.Transcript

open Text Transducer Margin

/-! ### The first failure of a traversal -/

/-- The first one of some items with a property. -/
def IsFirst {α : Type} (p : α → Prop) (xs : List α) (x : α) : Prop :=
  ∃ before after, xs = before ++ x :: after ∧ (∀ y ∈ before, ¬p y) ∧ p x

section Traversals

variable {α β ε : Type} {p : α → Prop} {fault : α → ε}

theorem isFirst_cons_iff {x y : α} {xs : List α} :
    IsFirst p (x :: xs) y ↔ p x ∧ y = x ∨ ¬p x ∧ IsFirst p xs y := by
  constructor
  · rintro ⟨before, after, hxs, hbefore, hy⟩
    cases before with
    | nil =>
      obtain ⟨rfl, -⟩ := List.cons.inj hxs
      exact Or.inl ⟨hy, rfl⟩
    | cons z before =>
      obtain ⟨rfl, hrest⟩ := List.cons.inj hxs
      obtain ⟨hz, hbefore⟩ := List.forall_mem_cons.mp hbefore
      exact Or.inr ⟨hz, before, after, hrest, hbefore, hy⟩
  · rintro (⟨hx, rfl⟩ | ⟨hx, before, after, rfl, hbefore, hy⟩)
    · exact ⟨[], xs, rfl, by simp, hx⟩
    · exact ⟨x :: before, after, rfl, List.forall_mem_cons.mpr ⟨hx, hbefore⟩, hy⟩

theorem IsFirst.mem {x : α} {xs : List α} (h : IsFirst p xs x) : x ∈ xs := by
  obtain ⟨before, after, rfl, -⟩ := h
  exact List.mem_append_right _ List.mem_cons_self

/-- A traversal fails at the first item that its step fails at. -/
theorem mapM_eq_error_iff_isFirst {f : α → Except ε β} (xs : List α) (e : ε) :
    xs.mapM f = .error e ↔ ∃ x, IsFirst (fun x => ∃ e, f x = .error e) xs x ∧ f x = .error e := by
  induction xs with
  | nil =>
    constructor
    · intro h
      cases h
    · rintro ⟨x, ⟨before, after, hnil, -⟩, -⟩
      simp at hnil
  | cons x xs ih =>
    rw [List.mapM_cons]
    cases hx : f x with
    | error e' =>
      change Except.error e' = Except.error e ↔ _
      rw [Except.error.injEq]
      constructor
      · rintro rfl
        exact ⟨x, isFirst_cons_iff.mpr (Or.inl ⟨⟨e', hx⟩, rfl⟩), hx⟩
      · rintro ⟨y, hy, he⟩
        rcases isFirst_cons_iff.mp hy with ⟨-, rfl⟩ | ⟨hno, -⟩
        · exact Except.error.inj (hx.symm.trans he)
        · exact (hno ⟨e', hx⟩).elim
    | ok b =>
      have hno : ¬∃ e, f x = .error e := by
        rintro ⟨e', he⟩
        rw [hx] at he
        cases he
      change (xs.mapM f >>= fun bs => Except.ok (b :: bs)) = .error e ↔ _
      have hmap : (xs.mapM f >>= fun bs => Except.ok (b :: bs)) = (xs.mapM f).map (b :: ·) := by
        cases xs.mapM f <;> rfl
      simp only [hmap, map_eq_error_iff, ih, isFirst_cons_iff, hno, false_and, false_or,
        not_false_eq_true, true_and]

theorem mapM_eq_error_iff {f : α → Except ε β}
    (hf : ∀ x e, f x = .error e ↔ p x ∧ e = fault x) (xs : List α) (e : ε) :
    xs.mapM f = .error e ↔ ∃ x, IsFirst p xs x ∧ e = fault x := by
  have hfails : (fun x => ∃ e, f x = .error e) = p := by
    funext x
    simp only [hf, exists_and_left, exists_eq, and_true]
  rw [mapM_eq_error_iff_isFirst, hfails]
  refine exists_congr fun x => and_congr_right fun hx => ?_
  obtain ⟨-, -, -, -, hp⟩ := hx
  rw [hf, and_iff_right hp]

theorem forM_eq_map_mapM (f : α → Except ε Unit) (xs : List α) :
    xs.forM f = (xs.mapM f).map fun _ => () := by
  induction xs with
  | nil => rfl
  | cons x xs ih =>
    rw [List.forM_eq_forM, List.forM_cons, ← List.forM_eq_forM, ih, List.mapM_cons]
    cases f x with
    | error e => rfl
    | ok _ => cases xs.mapM f <;> rfl

theorem forM_eq_error_iff {f : α → Except ε Unit}
    (hf : ∀ x e, f x = .error e ↔ p x ∧ e = fault x) (xs : List α) (e : ε) :
    xs.forM f = .error e ↔ ∃ x, IsFirst p xs x ∧ e = fault x := by
  rw [forM_eq_map_mapM, map_eq_error_iff, mapM_eq_error_iff hf]

end Traversals

/-! ### Faults of lines and of groups -/

/-- The line is a numbered prompt, and the mark that closes the number is missing. -/
def IsUnclosed (line : SourceLine) : Prop :=
  Prompt.isNumbered line.text = true ∧ ¬ClosesNumber line.text

instance (line : SourceLine) : Decidable (IsUnclosed line) :=
  inferInstanceAs (Decidable (_ ∧ _))

/-- Two or more examples of the group expect an exception. -/
def ExpectsTwice (g : Group) : Prop :=
  2 ≤ g.examples.countP fun e => startsWith "** (" e.expected

instance (g : Group) : Decidable (ExpectsTwice g) := inferInstanceAs (Decidable (_ ≤ _))

theorem plainLine_eq_error_iff (line : SourceLine) (d : Defect) :
    plainLine line = .error d ↔ IsUnclosed line ∧ d = .unknownPrompt line.number line.text := by
  by_cases h : IsUnclosed line
  · obtain ⟨hnumbered, hopen⟩ := h
    have hrest : Prompt.afterNumber (line.text.toList.drop 5) = none := by
      rw [closesNumber_iff, Option.not_isSome_iff_eq_none] at hopen
      exact hopen
    have hdrop : Prompt.dropNumber? line.text = none := by
      rw [Prompt.dropNumber?, hrest]
      split <;> rfl
    have hplain : plainLine line = .error (.unknownPrompt line.number line.text) := by
      rw [plainLine, Prompt.plain, if_pos hnumbered, Prompt.dropNumber, hdrop]
      rfl
    rw [hplain, Except.error.injEq, and_iff_right ⟨hnumbered, hopen⟩, eq_comm]
  · have hplain : plainLine line = .ok (unnumbered line) := by
      refine plainLine_of_closesNumber fun hnumbered => ?_
      by_contra hopen
      exact h ⟨hnumbered, hopen⟩
    rw [hplain]
    constructor
    · intro herror
      cases herror
    · intro herror
      exact (h herror.1).elim

theorem checkGroup_eq_error_iff (g : Group) (d : Defect) :
    checkGroup g = .error d ↔ ExpectsTwice g ∧ d = .multipleExceptions g.startLine := by
  have hcheck : checkGroup g =
      if ExpectsTwice g then .error (.multipleExceptions g.startLine) else .ok () := by
    simp only [checkGroup, ExpectsTwice, List.countP_eq_length_filter, expectsException_eq,
      Expectation.exceptionMark]
    rfl
  rw [hcheck]
  by_cases h : ExpectsTwice g
  · rw [if_pos h, Except.error.injEq, and_iff_right h, eq_comm]
  · rw [if_neg h]
    constructor
    · intro herror
      cases herror
    · intro herror
      exact (h herror.1).elim

/-! ### The result of an extraction -/

/-- What is found in a document: a line that does not keep the margin, or else an unclosed number of
a prompt, or else a group that expects two exceptions, or else the groups. -/
inductive Extracts (identifier : Identifier) (doc : String) (line : Int) :
    Except Defect (List Group) → Prop where
  | misplaced {v : Visit} (hv : v ∈ documentVisits doc line) (hchecked : v.isChecked = true)
      (hmisplaced : v.IsMisplaced) :
      Extracts identifier doc line (.error (.indentationMismatch v.number v.line v.margin))
  | unclosed {transcript : List SourceLine} {l : SourceLine}
      (hread : Margin.normalize (documentLines doc) (line + 1) = .ok transcript)
      (hfirst : IsFirst IsUnclosed transcript l) :
      Extracts identifier doc line (.error (.unknownPrompt l.number l.text))
  | exceptions {transcript : List SourceLine} {g : Group}
      (hread : Margin.normalize (documentLines doc) (line + 1) = .ok transcript)
      (hclosed : ∀ l ∈ transcript, ¬IsUnclosed l)
      (hfirst : IsFirst ExpectsTwice (groupsOf identifier (transcript.map unnumbered)) g) :
      Extracts identifier doc line (.error (.multipleExceptions g.startLine))
  | groups {transcript : List SourceLine}
      (hread : Margin.normalize (documentLines doc) (line + 1) = .ok transcript)
      (hclosed : ∀ l ∈ transcript, ¬IsUnclosed l)
      (honce : ∀ g ∈ groupsOf identifier (transcript.map unnumbered), ¬ExpectsTwice g) :
      Extracts identifier doc line (.ok (groupsOf identifier (transcript.map unnumbered)))

section Extracts

variable {identifier : Identifier} {doc : String} {line : Int}

theorem scan_of_unclosed {lines : List SourceLine} {l : SourceLine}
    (h : IsFirst IsUnclosed lines l) :
    scan identifier lines = .error (.unknownPrompt l.number l.text) := by
  have hlines := (mapM_eq_error_iff plainLine_eq_error_iff lines _).mpr ⟨l, h, rfl⟩
  rw [scan_eq, hlines]
  rfl

theorem scan_of_closed {lines : List SourceLine} (h : ∀ l ∈ lines, ¬IsUnclosed l) :
    scan identifier lines =
      ((groupsOf identifier (lines.map unnumbered)).forM checkGroup).map
        fun _ => groupsOf identifier (lines.map unnumbered) := by
  have hplain : lines.mapM plainLine = .ok (lines.map unnumbered) := by
    refine mapM_plainLine fun l hl hnumbered => ?_
    by_contra hopen
    exact h l hl ⟨hnumbered, hopen⟩
  rw [scan_eq, hplain]
  change ((groupsOf identifier (lines.map unnumbered)).forM checkGroup >>= fun _ => _) = _
  cases (groupsOf identifier (lines.map unnumbered)).forM checkGroup <;> rfl

/-- What is found is what is extracted. -/
theorem Extracts.extract_eq {result : Except Defect (List Group)}
    (h : Extracts identifier doc line result) : extract identifier doc line = result := by
  cases h with
  | misplaced hv hchecked hmisplaced =>
    have hread := normalize_eq_error_iff.mpr ⟨_, hv, hchecked, hmisplaced, rfl⟩
    rw [extract, hread]
    rfl
  | unclosed hread hfirst =>
    rw [extract, hread]
    exact scan_of_unclosed hfirst
  | exceptions hread hclosed hfirst =>
    rw [extract, hread]
    refine (scan_of_closed hclosed).trans ?_
    rw [map_eq_error_iff]
    exact (forM_eq_error_iff checkGroup_eq_error_iff _ _).mpr ⟨_, hfirst, rfl⟩
  | groups hread hclosed honce =>
    rw [extract, hread]
    refine (scan_of_closed hclosed).trans ?_
    rw [forM_checkGroup fun g hg => Nat.lt_succ_iff.mp (Nat.lt_of_not_le (honce g hg))]
    rfl

theorem isFirst_or_forall {α : Type} (p : α → Prop) (xs : List α) :
    (∃ x, IsFirst p xs x) ∨ ∀ x ∈ xs, ¬p x := by
  induction xs with
  | nil => exact Or.inr (by simp)
  | cons x xs ih =>
    by_cases hx : p x
    · exact Or.inl ⟨x, isFirst_cons_iff.mpr (Or.inl ⟨hx, rfl⟩)⟩
    · rcases ih with ⟨y, hy⟩ | hno
      · exact Or.inl ⟨y, isFirst_cons_iff.mpr (Or.inr ⟨hx, hy⟩)⟩
      · exact Or.inr (List.forall_mem_cons.mpr ⟨hx, hno⟩)

/-- In every document something is found. -/
theorem exists_extracts (identifier : Identifier) (doc : String) (line : Int) :
    ∃ result, Extracts identifier doc line result := by
  cases hread : Margin.normalize (documentLines doc) (line + 1) with
  | error d =>
    obtain ⟨v, hv, hchecked, hmisplaced, -⟩ := normalize_eq_error_iff.mp hread
    exact ⟨_, .misplaced hv hchecked hmisplaced⟩
  | ok transcript =>
    rcases isFirst_or_forall IsUnclosed transcript with ⟨l, hl⟩ | hclosed
    · exact ⟨_, .unclosed hread hl⟩
    · rcases isFirst_or_forall ExpectsTwice (groupsOf identifier (transcript.map unnumbered)) with
        ⟨g, hg⟩ | honce
      · exact ⟨_, .exceptions hread hclosed hg⟩
      · exact ⟨_, .groups hread hclosed honce⟩

theorem extract_eq_iff (result : Except Defect (List Group)) :
    extract identifier doc line = result ↔ Extracts identifier doc line result := by
  constructor
  · rintro rfl
    obtain ⟨result, h⟩ := exists_extracts identifier doc line
    rw [h.extract_eq]
    exact h
  · exact Extracts.extract_eq

/-! ### Where a fault stands -/

theorem bounds_of_mem_normalize {transcript : List SourceLine} {l : SourceLine}
    (hread : Margin.normalize (documentLines doc) (line + 1) = .ok transcript)
    (hl : l ∈ transcript) :
    line + 1 ≤ l.number ∧ l.number < line + 1 + (documentLines doc).length := by
  obtain ⟨final, hfeed⟩ := exists_feed_of_normalize hread
  have hnumber := number_mem_of_feed isBetween_prose hfeed l hl
  obtain ⟨x, hx, heq⟩ := List.mem_map.mp hnumber
  rw [← heq]
  exact bounds_of_mem_number hx

/-- A group starts at the number of one of its lines. -/
theorem exists_mem_of_mem_groupsOf {lines : List SourceLine} {g : Group}
    (h : g ∈ groupsOf identifier lines) : ∃ l ∈ lines, g.startLine = l.number := by
  obtain ⟨before, cut, after, rfl, hmakes⟩ := makes_of_mem_groupsOf h
  obtain ⟨first, rest, hfirst, hstart⟩ := hmakes.start
  exact ⟨first, by simp [hfirst], hstart⟩

theorem Extracts.line_mem {d : Defect} (h : Extracts identifier doc line (.error d)) :
    ∃ n, d.line = some n ∧ line + 1 ≤ n ∧ n < line + 1 + (documentLines doc).length := by
  cases h with
  | misplaced hv => exact ⟨_, rfl, bounds_of_mem_visits hv⟩
  | unclosed hread hfirst => exact ⟨_, rfl, bounds_of_mem_normalize hread hfirst.mem⟩
  | exceptions hread hclosed hfirst =>
    obtain ⟨plain, hplain, hstart⟩ := exists_mem_of_mem_groupsOf hfirst.mem
    obtain ⟨l, hl, rfl⟩ := List.mem_map.mp hplain
    have hbounds := bounds_of_mem_normalize hread hl
    refine ⟨_, rfl, ?_⟩
    rw [hstart]
    exact hbounds

theorem Extracts.kind_mem {d : Defect} (h : Extracts identifier doc line (.error d)) :
    d.kind = .indentationMismatch ∨ d.kind = .unknownPromptFormat ∨
      d.kind = .multipleExceptions := by
  cases h with
  | misplaced => exact Or.inl rfl
  | unclosed => exact Or.inr (Or.inl rfl)
  | exceptions => exact Or.inr (Or.inr rfl)

/-- No identifier is named in what is wrong with a document. -/
theorem Extracts.arities_eq_nil {d : Defect} (h : Extracts identifier doc line (.error d)) :
    d.arities = [] := by
  cases h with
  | misplaced => rfl
  | unclosed => rfl
  | exceptions => rfl

theorem Extracts.hasLongNumber_iff {d : Defect} {n : Int}
    (h : Extracts identifier doc line (.error d)) (hn : d.line = some n) :
    d.HasLongNumber ↔ 10 ^ mostDigits ≤ n.natAbs := by
  simp [Defect.HasLongNumber, h.arities_eq_nil, hn]

theorem Extracts.not_expectsTwice {groups : List Group}
    (h : Extracts identifier doc line (.ok groups)) : ∀ g ∈ groups, ¬ExpectsTwice g := by
  cases h with
  | groups hread hclosed honce => exact honce

end Extracts

/-- **Extraction gives all groups of a document or one exact fault.**  The result is the one that is
found; what is wrong stands on a line of the document.  Wherever the document comes from, it is
reported as a fault of one of three kinds on that line, or else the line has too many digits to be
written and that is what is raised.  No group expects two exceptions.  While a transcript is read,
there is always a group to add the example to that is being read. -/
theorem extract_outcome (identifier : Identifier) (doc : String) (line : Int) :
    (∀ result, extract identifier doc line = result ↔ Extracts identifier doc line result) ∧
    (∀ d, extract identifier doc line = .error d →
      (d.kind = .indentationMismatch ∨ d.kind = .unknownPromptFormat ∨
        d.kind = .multipleExceptions) ∧
      ∃ n, d.line = some n ∧ line + 1 ≤ n ∧ n ≤ line + (documentLines doc).length ∧ ∀ place,
        (n.natAbs < 10 ^ mostDigits →
          ∃ f, d.fault place = .ok f ∧ f.kind = d.kind ∧ f.line = some n) ∧
        (10 ^ mostDigits ≤ n.natAbs → d.fault place = .error tooManyDigits)) ∧
    (∀ groups, extract identifier doc line = .ok groups → ∀ g ∈ groups,
      g.examples.countP (fun e => startsWith "** (" e.expected) ≤ 1) ∧
    ∀ lines out r, feed reader.settle {} lines = .ok (out, r) →
      r.source ≠ [] ∨ r.output ≠ [] → r.groups ≠ [] := by
  refine ⟨extract_eq_iff, ?_, ?_, ?_⟩
  · intro d hd
    have hfound := (extract_eq_iff _).mp hd
    obtain ⟨n, hn, hlower, hupper⟩ := hfound.line_mem
    refine ⟨hfound.kind_mem, n, hn, hlower, by omega, fun place => ⟨?_, ?_⟩⟩
    · intro hshort
      have hwritten : ¬d.HasLongNumber := by
        rw [hfound.hasLongNumber_iff hn]
        exact Nat.not_le.mpr hshort
      obtain ⟨f, hf, hkind, hline⟩ := Defect.exists_fault place hwritten
      exact ⟨f, hf, hkind, hline.trans hn⟩
    · intro hlong
      exact Defect.fault_eq_error_iff.mpr ⟨rfl, (hfound.hasLongNumber_iff hn).mpr hlong⟩
  · intro groups hgroups g hg
    have hfound := (extract_eq_iff _).mp hgroups
    have honce := hfound.not_expectsTwice g hg
    exact Nat.lt_succ_iff.mp (Nat.lt_of_not_le honce)
  · intro lines out r hfeed hpending
    exact (isReached_of_feed hfeed).groups_ne_nil hpending

/-- The unclosed number behind a fence decides, although a group in front of it expects two
exceptions. -/
theorem extract_unclosed_behind_exceptions :
    extract .moduledoc "iex> f\n** (E) a\niex> g\n** (E) b\n```\niex(1 f" 9 =
      .error (.unknownPrompt 15 "iex(1 f") ∧
    ∀ place, ∃ f, (Defect.unknownPrompt 15 "iex(1 f").fault place = .ok f ∧
      f.kind = .unknownPromptFormat ∧ f.line = some 15 := by
  have hextract : extract .moduledoc "iex> f\n** (E) a\niex> g\n** (E) b\n```\niex(1 f" 9 =
      .error (.unknownPrompt 15 "iex(1 f") := by
    refine ((extract_outcome _ _ _).1 _).mpr ?_
    have hread : Margin.normalize
        (documentLines "iex> f\n** (E) a\niex> g\n** (E) b\n```\niex(1 f") (9 + 1) =
        .ok ([⟨"iex> f", 10⟩, ⟨"** (E) a", 11⟩, ⟨"iex> g", 12⟩, ⟨"** (E) b", 13⟩, ⟨"```", 14⟩] ++
          [⟨"iex(1 f", 15⟩]) := by decide +kernel
    refine Extracts.unclosed (l := ⟨"iex(1 f", 15⟩) hread ⟨_, [], rfl, ?_, ?_⟩
    · decide +kernel
    · decide +kernel
  refine ⟨hextract, fun place => ?_⟩
  obtain ⟨-, n, hn, -, -, hfault⟩ := (extract_outcome _ _ _).2.1 _ hextract
  obtain rfl : 15 = n := Option.some.inj hn
  have hshort : (15 : Int).natAbs < 10 ^ mostDigits :=
    Nat.lt_of_lt_of_le (by decide : 15 < 10 ^ 2) (Nat.pow_le_pow_right (by decide) (by decide))
  exact (hfault place).1 hshort

/-- A document whose first line has a number of one digit too many. -/
theorem fault_unwritten_of_long_line :
    extract .moduledoc "iex(1 oops" (10 ^ mostDigits - 1) =
      .error (.unknownPrompt (10 ^ mostDigits) "iex(1 oops") ∧
    ∀ place, (Defect.unknownPrompt (10 ^ mostDigits) "iex(1 oops").fault place =
      .error tooManyDigits := by
  have hextract : ∀ line, extract .moduledoc "iex(1 oops" line =
      .error (.unknownPrompt (line + 1) "iex(1 oops") := by
    intro line
    have hlines : documentLines "iex(1 oops" = ["iex(1 oops"] := by decide +kernel
    have htrim : trimStart "iex(1 oops" = "iex(1 oops" := by decide +kernel
    have hopens : Prompt.opens (trimStart "iex(1 oops") = true := by decide +kernel
    have hread : Margin.normalize (documentLines "iex(1 oops") (line + 1) =
        .ok [⟨"iex(1 oops", line + 1⟩] := by
      rw [hlines, normalize_eq_feed, number_cons, number_nil,
        feed_cons_of_ok _ (settle_prose_of_opens _ hopens), htrim]
      rfl
    have hunclosed : IsUnclosed ⟨"iex(1 oops", line + 1⟩ :=
      (by decide +kernel : IsUnclosed ⟨"iex(1 oops", 0⟩)
    exact (Extracts.unclosed hread ⟨[], [], rfl, by simp, hunclosed⟩).extract_eq
  constructor
  · rw [hextract, Int.sub_add_cancel]
  · intro place
    refine Defect.fault_eq_error_iff.mpr ⟨rfl, Or.inr ⟨_, rfl, ?_⟩⟩
    have hpower : ∀ k : Nat, 10 ^ k ≤ ((10 : Int) ^ k).natAbs := fun k =>
      Nat.le_of_eq (Int.natAbs_pow 10 k).symm
    exact hpower mostDigits

end DocExamples.Transcript
