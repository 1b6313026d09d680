import DocExamples.Proofs.DocumentTranscript
import DocExamples.Proofs.ExpectedLines
import Mathlib.Data.List.Chain
import Mathlib.Data.List.Forall2

/-!
# Where groups stand in a document

A group is made of lines of a transcript in a row, and none of them ends it (`Makes`).  In a
document such lines have one margin (`exists_margin`), as only an empty line moves it.  So every
example has a place of its own among the lines of the document (`Stands`), and the main statement is
that the places of the groups follow one another (`groups_stand_in_order`).
-/

namespace DocExamples.Transcript

open Text

/-! ### Segments in order -/

/-- A transcript is taken apart at its first terminator. -/
theorem segment_induction {P : List SourceLine → Prop}
    (last : ∀ segment, (∀ l ∈ segment, isTerminator l.text = false) → P segment)
    (step : ∀ segment line rest, (∀ l ∈ segment, isTerminator l.text = false) →
      isTerminator line.text = true → P rest → P (segment ++ line :: rest))
    (lines : List SourceLine) : P lines := by
  match hfind : lines.find? (isTerminator ·.text) with
  | none =>
    refine last lines fun l hl => ?_
    simpa using List.find?_eq_none.mp hfind l hl
  | some line =>
    obtain ⟨hline, segment, rest, hlines, hsegment⟩ := List.find?_eq_some_iff_append.mp hfind
    have hshort : rest.length < lines.length := by
      rw [hlines, List.length_append, List.length_cons]
      omega
    rw [hlines]
    refine step segment line rest (fun l hl => ?_) hline (segment_induction last step rest)
    simpa using hsegment l hl
termination_by lines.length

theorem not_of_dropWhile_eq_cons {α : Type} {p : α → Bool} {xs rest : List α} {x : α}
    (h : xs.dropWhile p = x :: rest) : p x = false := by
  have hhead := List.head_dropWhile_not p (l := xs) (by rw [h]; simp)
  simpa [h] using hhead

/-- The lines make the examples of the group. -/
structure Makes (cut : List (List SourceLine)) (g : Group) : Prop where
  isCut : IsCut cut
  inside : ∀ l ∈ cut.flatten, isTerminator l.text = false
  start : ∃ first rest, cut.flatten = first :: rest ∧ g.startLine = first.number
  examples : g.examples = cut.map exampleOf

section Groups

variable {identifier : Identifier} {g : Group}

theorem makes_of_groupOf {segment : List SourceLine}
    (hsegment : ∀ l ∈ segment, isTerminator l.text = false)
    (h : groupOf identifier segment = some g) :
    ∃ before cut, segment = before ++ cut.flatten ∧ Makes cut g := by
  have hcut : segment.takeWhile (!isOpening ·.text) ++ segment.dropWhile (!isOpening ·.text) =
      segment := List.takeWhile_append_dropWhile
  rw [groupOf] at h
  split at h
  · cases h
  · next first rest hrest =>
    cases h
    have hopening : isOpening first.text = true := by
      simpa using not_of_dropWhile_eq_cons hrest
    have hflatten : (cutExamples [first] rest).flatten = first :: rest :=
      flatten_cutExamples [first] rest
    rw [hrest] at hcut
    refine ⟨segment.takeWhile (!isOpening ·.text), cutExamples [first] rest, ?_, ?_, ?_, ?_, rfl⟩
    · rw [hflatten, hcut]
    · exact isCut_cutExamples rest ⟨first, [], rfl, hopening⟩ (List.pairwise_singleton _ _)
    · intro l hl
      rw [hflatten] at hl
      exact hsegment l (hcut ▸ List.mem_append_right _ hl)
    · exact ⟨first, rest, hflatten, rfl⟩

theorem groupsOf_segment {segment : List SourceLine}
    (hsegment : ∀ l ∈ segment, isTerminator l.text = false) :
    groupsOf identifier segment = (groupOf identifier segment).toList := by
  have hwhole : segments segment = [segment] := List.splitOnP_eq_singleton hsegment
  rw [groupsOf, hwhole, List.filterMap_cons]
  cases groupOf identifier segment <;> rfl

/-- Every group is made of lines in a row. -/
theorem makes_of_mem_groupsOf {lines : List SourceLine} (h : g ∈ groupsOf identifier lines) :
    ∃ before cut after, lines = before ++ cut.flatten ++ after ∧ Makes cut g := by
  induction lines using segment_induction with
  | last segment hsegment =>
    rw [groupsOf_segment hsegment, Option.mem_toList] at h
    obtain ⟨before, cut, hcut, hmakes⟩ := makes_of_groupOf hsegment h
    exact ⟨before, cut, [], by rw [List.append_nil, hcut], hmakes⟩
  | step segment line rest hsegment hline ih =>
    rw [groupsOf_append identifier segment rest hline, List.mem_append] at h
    rcases h with h | h
    · rw [groupsOf_segment hsegment, Option.mem_toList] at h
      obtain ⟨before, cut, hcut, hmakes⟩ := makes_of_groupOf hsegment h
      exact ⟨before, cut, line :: rest, by rw [hcut], hmakes⟩
    · obtain ⟨before, cut, after, hcut, hmakes⟩ := ih h
      refine ⟨segment ++ line :: before, cut, after, ?_, hmakes⟩
      rw [hcut]
      simp only [List.append_assoc, List.cons_append]

/-! ### Lines with their places as numbers -/

/-- The lines are numbered in order, the first one with `start`. -/
def Counts (start : Int) (lines : List SourceLine) : Prop :=
  ∀ (i : Nat) (l : SourceLine), lines[i]? = some l → l.number = start + i

theorem Counts.left {start : Int} {lines more : List SourceLine}
    (h : Counts start (lines ++ more)) : Counts start lines := by
  intro i l hl
  refine h i l ?_
  rw [List.getElem?_append_left (List.getElem?_eq_some_iff.mp hl).1, hl]

theorem Counts.right {start : Int} {lines more : List SourceLine}
    (h : Counts start (lines ++ more)) : Counts (start + lines.length) more := by
  intro i l hl
  have hnumber := h (lines.length + i) l (by rw [List.getElem?_append_right (by omega)]; simpa)
  rw [hnumber]
  omega

section Places

variable {start : Int} {lines : List SourceLine} {cut : List (List SourceLine)}

theorem Makes.size (h : Makes cut g) (hfeeds : ∀ l ∈ cut.flatten, '\n' ∉ l.text.toList) :
    g.size = cut.flatten.length := by
  rw [Group.size, h.examples, List.length_flatten, List.map_map]
  congr 1
  refine List.map_congr_left fun block hblock => ?_
  exact size_exampleOf (fun l hl => h.inside l (List.mem_flatten_of_mem hblock hl))
    fun l hl => hfeeds l (List.mem_flatten_of_mem hblock hl)

theorem Makes.startLine (h : Makes cut g) {before after : List SourceLine}
    (hcounts : Counts start (before ++ cut.flatten ++ after)) :
    g.startLine = start + before.length := by
  obtain ⟨first, rest, hfirst, hstart⟩ := h.start
  rw [hstart]
  refine hcounts before.length first ?_
  rw [hfirst, List.append_assoc, List.getElem?_append_right (Nat.le_refl _), Nat.sub_self]
  rfl

theorem bounds_of_mem_groupsOf (hcounts : Counts start lines)
    (hfeeds : ∀ l ∈ lines, '\n' ∉ l.text.toList) (h : g ∈ groupsOf identifier lines) :
    start ≤ g.startLine ∧ 0 < g.size ∧ g.startLine + g.size ≤ start + lines.length := by
  obtain ⟨before, cut, after, rfl, hmakes⟩ := makes_of_mem_groupsOf h
  have hsize := hmakes.size fun l hl => hfeeds l (by simp [hl])
  have hpos : 0 < cut.flatten.length := by
    obtain ⟨first, rest, hfirst, -⟩ := hmakes.start
    rw [hfirst, List.length_cons]
    exact Nat.succ_pos _
  rw [hmakes.startLine hcounts, hsize]
  simp only [List.length_append]
  omega

/-- Between two groups there is at least the line that ends the first one. -/
theorem pairwise_groupsOf (hcounts : Counts start lines)
    (hfeeds : ∀ l ∈ lines, '\n' ∉ l.text.toList) :
    (groupsOf identifier lines).Pairwise fun g later =>
      g.startLine + (g.size : Int) < later.startLine := by
  induction lines using segment_induction generalizing start with
  | last segment hsegment =>
    rw [groupsOf_segment hsegment]
    cases groupOf identifier segment with
    | none => exact List.Pairwise.nil
    | some g => exact List.pairwise_singleton _ _
  | step segment line rest hsegment hline ih =>
    have hrest : Counts (start + segment.length + 1) rest := by
      have hcons : segment ++ line :: rest = (segment ++ [line]) ++ rest := by simp
      rw [hcons] at hcounts
      have hright := hcounts.right
      rw [List.length_append, List.length_singleton, Int.natCast_add, ← Int.add_assoc] at hright
      exact hright
    have hfeedsRest : ∀ l ∈ rest, '\n' ∉ l.text.toList := fun l hl => hfeeds l (by simp [hl])
    have hfeedsSegment : ∀ l ∈ segment, '\n' ∉ l.text.toList :=
      fun l hl => hfeeds l (by simp [hl])
    rw [groupsOf_append identifier segment rest hline, List.pairwise_append]
    refine ⟨?_, ih hrest hfeedsRest, ?_⟩
    · rw [groupsOf_segment hsegment]
      cases groupOf identifier segment with
      | none => exact List.Pairwise.nil
      | some g => exact List.pairwise_singleton _ _
    · intro g hg later hlater
      -- The first group ends in front of the terminator, and the later one starts behind it.
      have hfirst := bounds_of_mem_groupsOf hcounts.left hfeedsSegment hg
      have hsecond := bounds_of_mem_groupsOf hrest hfeedsRest hlater
      omega

end Places

end Groups

end DocExamples.Transcript

namespace DocExamples.Margin

open Text Transducer Transcript

/-! ### The margin of a group -/

section Margins

variable {s final : State} {lines : List (String × Int)} {out : List SourceLine} {v w : Visit}

theorem isChain_visits (hs : s.IsBetween)
    (h : feed Margin.reader.settle s lines = .ok (out, final)) :
    (visits s lines).IsChain fun v w => ∃ cut, Reads v.state v.line cut w.state := by
  induction lines generalizing s out with
  | nil => exact List.IsChain.nil
  | cons x rest ih =>
    obtain ⟨line, n⟩ := x
    obtain ⟨first, after, more, hstep, hrest, rfl⟩ := feed_cons_eq_ok h
    obtain ⟨cut, hreads, -⟩ := reads_of_settle hs hstep
    rw [visits_cons_of_ok rest hstep]
    have hchain := ih hreads.isBetween hrest
    cases rest with
    | nil => exact List.IsChain.singleton _
    | cons y more => exact List.IsChain.cons_cons ⟨cut, hreads⟩ hchain

/-- The margin stays until an empty line. -/
theorem Reads.margin_eq {cut : Option String} (h : Reads v.state v.line cut w.state)
    (hblock : v.isInBlock = true) (hne : v.cut.text ≠ "") : w.margin = v.margin := by
  obtain ⟨s, line, n⟩ := v
  obtain ⟨after, line', n'⟩ := w
  cases h with
  | prose hno =>
    rw [Visit.isInBlock, hno] at hblock
    cases hblock
  | @behindPrompt _ margin =>
    cases Prompt.isPrompt (dropChars margin line) <;> rfl
  | blank hempty => exact (hne hempty).elim
  | opening | nextPrompt | output => rfl

theorem isInBlock_of_plain (h : isTerminator v.plain.text = false) :
    v.isInBlock = true ∧ v.plain = unnumbered v.cut ∧ v.cut.text ≠ "" := by
  cases hblock : v.isInBlock with
  | false =>
    rw [plain_of_not_isInBlock hblock] at h
    cases h
  | true =>
    have hplain := plain_of_isInBlock hblock
    refine ⟨rfl, hplain, fun hempty => ?_⟩
    have hline : unnumbered v.cut = v.cut :=
      unnumbered_of_plain (by rw [hempty]; rfl)
    rw [hplain, hline, hempty] at h
    cases h

/-- Lines in a row of which none ends a group have one margin. -/
theorem exists_margin {row : List Visit}
    (hchain : row.IsChain fun v w => ∃ cut, Reads v.state v.line cut w.state)
    (hinside : ∀ v ∈ row, isTerminator v.plain.text = false) :
    ∃ margin, ∀ v ∈ row, v.margin = margin := by
  induction row with
  | nil => exact ⟨0, by simp⟩
  | cons v rest ih =>
    -- The margin of a line is that of the next one, which the induction knows.
    cases rest with
    | nil => exact ⟨v.margin, by simp⟩
    | cons w more =>
      obtain ⟨⟨cut, hreads⟩, hrest⟩ := List.isChain_cons_cons.mp hchain
      obtain ⟨margin, hmargin⟩ := ih hrest fun x hx => hinside x (by simp [hx])
      obtain ⟨hblock, -, hne⟩ := isInBlock_of_plain (hinside v (by simp))
      refine ⟨margin, List.forall_mem_cons.mpr ⟨?_, hmargin⟩⟩
      rw [← hreads.margin_eq hblock hne]
      exact hmargin w (by simp)

end Margins

end DocExamples.Margin

namespace DocExamples.Transcript

open Text Transducer Margin

/-! ### Places in a document -/

/-- The line behind a margin, with a plain prompt. -/
def behind (margin : Nat) (v : Visit) : SourceLine :=
  unnumbered ⟨dropChars margin v.line, v.number⟩

/-- The example was read from these lines of a document: behind the margin they are its prompts and
its expected result. -/
structure Occupies (margin : Nat) (lines : List Visit) (e : Example) : Prop where
  size : lines.length = e.size
  margins : ∀ v ∈ lines, v.margin = margin
  opens : ∃ first rest, lines = first :: rest ∧ Prompt.opens (dropChars margin first.line) = true
  source : ((lines.map (behind margin)).filter isPromptLine).map (Prompt.fragment ·.text) = e.source
  answers : ((lines.map (behind margin)).filter (!isPromptLine ·)).map (·.text) = e.answers

/-- The examples of the group were read from lines of the document in a row, the first ones behind
`before`. -/
structure Stands (document : List Visit) (start : Int) (g : Group) (margin : Nat)
    (before : List Visit) (places : List (List Visit)) : Prop where
  lines : before ++ places.flatten <+: document
  start : g.startLine = start + before.length
  examples : List.Forall₂ (Occupies margin) places g.examples

theorem opens_of_isOpening_unnumbered {l : SourceLine}
    (h : isOpening (unnumbered l).text = true) : Prompt.opens l.text = true := by
  cases hdrop : Prompt.dropNumber? l.text with
  | none =>
    rw [unnumbered, hdrop, Option.getD_none] at h
    rw [Prompt.opens, ← isOpening, h, Bool.true_or]
  | some text =>
    rw [unnumbered, hdrop, Option.getD_some] at h
    simp only [Prompt.dropNumber?, Option.ite_none_right_eq_some, Option.map_eq_some_iff,
      Prompt.hasNumber, Bool.or_eq_true] at hdrop
    obtain ⟨hiex | hdots, rest, -, rfl⟩ := hdrop
    · rw [Prompt.opens, hiex, Bool.or_true]
    · -- A continuation stays one.
      simp only [startsWith, List.isPrefixOf_iff_prefix] at hdots
      obtain ⟨more, hmore⟩ := hdots
      simp [isOpening, startsWith, ← hmore] at h

theorem exists_flatten_of_map {α β : Type} {f : α → β} {xs : List α} {blocks : List (List β)}
    (h : xs.map f = blocks.flatten) :
    ∃ rows : List (List α), rows.flatten = xs ∧ rows.map (·.map f) = blocks := by
  induction blocks generalizing xs with
  | nil =>
    obtain rfl := List.map_eq_nil_iff.mp h
    exact ⟨[], rfl, rfl⟩
  | cons block more ih =>
    rw [List.flatten_cons] at h
    obtain ⟨front, rest, rfl, rfl, hrest⟩ := List.map_eq_append_iff.mp h
    obtain ⟨rows, rfl, rfl⟩ := ih hrest
    exact ⟨front :: rows, rfl, rfl⟩

theorem behind_eq_plain {margin : Nat} {v : Visit} (hmargin : v.margin = margin)
    (hinside : isTerminator v.plain.text = false) : behind margin v = v.plain := by
  obtain ⟨-, hplain, -⟩ := isInBlock_of_plain hinside
  rw [hplain, behind, Visit.cut, hmargin]

theorem occupies_exampleOf {margin : Nat} {row : List Visit}
    (hmargin : ∀ v ∈ row, v.margin = margin)
    (hinside : ∀ v ∈ row, isTerminator v.plain.text = false)
    (hfeeds : ∀ v ∈ row, '\n' ∉ v.plain.text.toList)
    (hopens : ∃ first rest, row.map (·.plain) = first :: rest ∧ isOpening first.text = true) :
    Occupies margin row (exampleOf (row.map (·.plain))) := by
  have hbehind : row.map (behind margin) = row.map (·.plain) :=
    List.map_congr_left fun v hv => behind_eq_plain (hmargin v hv) (hinside v hv)
  have hterminator : ∀ l ∈ row.map (·.plain), isTerminator l.text = false :=
    List.forall_mem_map.mpr hinside
  have hnewline : ∀ l ∈ row.map (·.plain), '\n' ∉ l.text.toList := List.forall_mem_map.mpr hfeeds
  refine ⟨?_, hmargin, ?_, ?_, ?_⟩
  · rw [size_exampleOf hterminator hnewline, List.length_map]
  · obtain ⟨first, rest, hrow, hopening⟩ := hopens
    obtain ⟨v, more, rfl, rfl, -⟩ := List.map_eq_cons_iff.mp hrow
    have hv := behind_eq_plain (hmargin v (by simp)) (hinside v (by simp))
    rw [← hv, behind] at hopening
    have hprompt := opens_of_isOpening_unnumbered hopening
    exact ⟨v, more, rfl, hprompt⟩
  · rw [hbehind, source_exampleOf]
  · rw [hbehind, answers_exampleOf hterminator hnewline]

section Documents

variable {identifier : Identifier} {doc : String} {line : Int} {groups : List Group}

theorem counts_documentVisits (h : extract identifier doc line = .ok groups) :
    Counts (line + 1) ((documentVisits doc line).map (·.plain)) := by
  intro i l hl
  rw [List.getElem?_map, Option.map_eq_some_iff] at hl
  obtain ⟨v, hv, rfl⟩ := hl
  obtain ⟨hi, rfl⟩ := List.getElem?_eq_some_iff.mp hv
  have hvisits : documentVisits doc line =
      (documentVisits doc line).take i ++
        (documentVisits doc line)[i] :: (documentVisits doc line).drop (i + 1) := by
    rw [← List.drop_eq_getElem_cons hi, List.take_append_drop]
  have hnumber := (number_of_documentVisits h hvisits).1
  rw [plain_number, hnumber, List.length_take, Nat.min_eq_left (Nat.le_of_lt hi)]

theorem newline_not_mem_documentVisits (h : extract identifier doc line = .ok groups) :
    ∀ l ∈ (documentVisits doc line).map (·.plain), '\n' ∉ l.text.toList := by
  intro l hl
  obtain ⟨v, hv, rfl⟩ := List.mem_map.mp hl
  obtain ⟨before, after, hvisits⟩ := List.append_of_mem hv
  have hline := (number_of_documentVisits h hvisits).2
  exact newline_not_mem_plain (not_mem_of_mem_documentLines (List.mem_of_getElem? hline))

theorem exists_stands (h : extract identifier doc line = .ok groups) {g : Group}
    (hg : g ∈ groups) :
    ∃ margin before places, Stands (documentVisits doc line) (line + 1) g margin before places := by
  have hcounts := counts_documentVisits h
  have hfeeds := newline_not_mem_documentVisits h
  rw [eq_groupsOf_visits h] at hg
  obtain ⟨front, cut, back, hlines, hmakes⟩ := makes_of_mem_groupsOf hg
  rw [hlines] at hcounts
  have hstart := hmakes.startLine hcounts
  obtain ⟨behindFront, after, hvisits, hfront, -⟩ := List.map_eq_append_iff.mp hlines
  obtain ⟨before, row, rfl, rfl, hrow⟩ := List.map_eq_append_iff.mp hfront
  obtain ⟨places, rfl, rfl⟩ := exists_flatten_of_map hrow
  -- No line of the group ends it, and so its lines have one margin.
  have hinside : ∀ v ∈ places.flatten, isTerminator v.plain.text = false := by
    intro v hv
    refine hmakes.inside _ ?_
    rw [← hrow]
    exact List.mem_map_of_mem hv
  obtain ⟨out, final, -, hfeed⟩ := exists_feed_of_extract h
  have hchain := isChain_visits isBetween_prose hfeed
  change (documentVisits doc line).IsChain _ at hchain
  have hwithin : places.flatten <:+: documentVisits doc line := ⟨before, after, hvisits.symm⟩
  have hrow := List.IsChain.infix hchain hwithin
  obtain ⟨margin, hmargin⟩ := exists_margin hrow hinside
  refine ⟨margin, before, places, ⟨after, hvisits.symm⟩, ?_, ?_⟩
  · rw [hstart, List.length_map]
  · rw [hmakes.examples, List.map_map, List.forall₂_map_right_iff, List.forall₂_same]
    intro place hplace
    refine occupies_exampleOf (fun v hv => hmargin v (List.mem_flatten_of_mem hplace hv))
      (fun v hv => hinside v (List.mem_flatten_of_mem hplace hv)) (fun v hv => ?_) ?_
    · exact hfeeds _ (List.mem_map_of_mem (hwithin.subset (List.mem_flatten_of_mem hplace hv)))
    · exact hmakes.isCut.opens _ (List.mem_map_of_mem hplace)

end Documents

/-! ### Examples with source and answer -/

theorem Makes.examples_ne_nil {cut : List (List SourceLine)} {g : Group} (h : Makes cut g) :
    g.examples ≠ [] := by
  obtain ⟨first, rest, hfirst, -⟩ := h.start
  rw [h.examples, ne_eq, List.map_eq_nil_iff]
  rintro rfl
  cases hfirst

theorem Makes.source_ne_nil {cut : List (List SourceLine)} {g : Group} (h : Makes cut g) :
    ∀ e ∈ g.examples, e.source ≠ [] := by
  intro e he
  rw [h.examples] at he
  obtain ⟨lines, hlines, rfl⟩ := List.mem_map.mp he
  obtain ⟨first, rest, rfl, hopening⟩ := h.isCut.opens lines hlines
  have hprompt : isPromptLine first = true := by rw [isPromptLine, hopening, Bool.true_or]
  rw [source_exampleOf, List.filter_cons_of_pos hprompt]
  exact List.cons_ne_nil _ _

theorem Makes.expected_ne_empty {cut : List (List SourceLine)} {g : Group} (h : Makes cut g) :
    ∀ e ∈ g.examples.dropLast, e.expected ≠ "" := by
  intro e he
  rw [h.examples, ← List.map_dropLast] at he
  obtain ⟨lines, hlines, rfl⟩ := List.mem_map.mp he
  have hcut : lines ∈ cut := (List.dropLast_sublist cut).subset hlines
  obtain ⟨l, hl, hanswer⟩ := List.any_eq_true.mp (h.isCut.answered lines hlines)
  have hfilter : l.text ∈ (lines.filter (!isPromptLine ·)).map (·.text) :=
    List.mem_map_of_mem (List.mem_filter.mpr ⟨hl, hanswer⟩)
  have hne : ∀ s ∈ (lines.filter (!isPromptLine ·)).map (·.text), s ≠ "" := by
    intro s hs
    obtain ⟨k, hk, rfl⟩ := List.mem_map.mp hs
    refine ne_empty_of_not_terminator (h.inside k ?_)
    exact List.mem_flatten_of_mem hcut (List.mem_filter.mp hk).1
  intro hempty
  have hnil := (joinLines_eq_empty_iff hne).mp hempty
  rw [hnil] at hfilter
  cases hfilter

/-! ### The order of groups -/

/-- **Groups are contiguous pieces of a document, in order.**  The lines of the document are those
of its visits.  Every group has examples, these have sources, only the last may lack a result, and
they stand in lines in a row behind one margin.  The groups are at least a line apart, and they
start inside of the document. -/
theorem groups_stand_in_order {identifier : Identifier} {doc : String} {line : Int}
    {groups : List Group} (h : extract identifier doc line = .ok groups) :
    (documentVisits doc line).map (·.line) = documentLines doc ∧
    (∀ g ∈ groups,
      g.examples ≠ [] ∧ (∀ e ∈ g.examples, e.source ≠ []) ∧
      (∀ e ∈ g.examples.dropLast, e.expected ≠ "") ∧
      ∃ margin before places,
        Stands (documentVisits doc line) (line + 1) g margin before places) ∧
    groups.Pairwise (fun g later => g.startLine + (g.size : Int) < later.startLine) ∧
    (groups.map (·.startLine)).Pairwise (· < ·) ∧
    ∀ g ∈ groups, line + 1 ≤ g.startLine ∧
      g.startLine ≤ line + (documentLines doc).length := by
  have hcounts := counts_documentVisits h
  have hfeeds := newline_not_mem_documentVisits h
  have hgroups := eq_groupsOf_visits h
  have hlines := map_line_documentVisits h
  have hapart : groups.Pairwise fun g later => g.startLine + (g.size : Int) < later.startLine := by
    rw [hgroups]
    exact pairwise_groupsOf hcounts hfeeds
  refine ⟨hlines, ?_, hapart, ?_, ?_⟩
  · intro g hg
    have hstands := exists_stands h hg
    rw [hgroups] at hg
    obtain ⟨_, cut, _, -, hmakes⟩ := makes_of_mem_groupsOf hg
    exact ⟨hmakes.examples_ne_nil, hmakes.source_ne_nil, hmakes.expected_ne_empty, hstands⟩
  · rw [List.pairwise_map]
    refine hapart.imp fun {g later} hlater => ?_
    omega
  · intro g hg
    rw [hgroups] at hg
    have hbounds := bounds_of_mem_groupsOf hcounts hfeeds hg
    have hlength := congrArg List.length hlines
    rw [List.length_map] at hbounds hlength
    omega

def twoGroups : String := "  iex> 1\n  1\n  iex(2)> 2\n  2\n\niex> 3"

def firstGroup : Group :=
  ⟨5, .moduledoc, [⟨["1"], "1", "\niex> 1\n1"⟩, ⟨["2"], "2", "\niex> 2\n2"⟩]⟩

theorem twoGroups_stand_in_order :
    extract .moduledoc twoGroups 4 =
        .ok [firstGroup, ⟨10, .moduledoc, [⟨["3"], "", "\niex> 3\n"⟩]⟩] ∧
      firstGroup.startLine + (firstGroup.size : Int) < 10 ∧
      ∃ margin before places,
        Stands (documentVisits twoGroups 4) 5 firstGroup margin before places := by
  have hextract : extract .moduledoc twoGroups 4 =
      .ok [firstGroup, ⟨10, .moduledoc, [⟨["3"], "", "\niex> 3\n"⟩]⟩] := by decide +kernel
  obtain ⟨-, hgroups, hapart, -, -⟩ := groups_stand_in_order hextract
  have hlater := (List.pairwise_cons.mp hapart).1 _ List.mem_cons_self
  exact ⟨hextract, hlater, (hgroups _ List.mem_cons_self).2.2.2⟩

end DocExamples.Transcript
