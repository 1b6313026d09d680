import DocExamples.Proofs.MarginCuts

/-!
# A document as one transcript

The reader of margins leaves out the lines between blocks, and so the lines of a transcript have
gaps.  Nothing changes if these lines stay in the transcript as empty ones (`eq_groupsOf_visits`):
where lines are left out, either nothing stands in front of them or an empty line.  In this form
every line of the document is a line of the transcript, and its number is its place.
-/

namespace DocExamples.Margin

open Text Transducer Transcript

/-- The line as a reader of transcripts takes it: behind its margin and with a plain prompt, or
empty if it stands outside of blocks. -/
def Visit.plain (v : Visit) : SourceLine :=
  if v.isInBlock then unnumbered v.cut else ⟨"", v.number⟩

@[simp] theorem plain_number (v : Visit) : v.plain.number = v.number := by
  rw [Visit.plain]
  split <;> rfl

theorem plain_of_isInBlock {v : Visit} (h : v.isInBlock = true) : v.plain = unnumbered v.cut := by
  rw [Visit.plain, if_pos h]

theorem plain_of_not_isInBlock {v : Visit} (h : v.isInBlock = false) :
    v.plain = ⟨"", v.number⟩ := by
  rw [Visit.plain, h]
  rfl

/-- A block is left behind an empty line only. -/
theorem Reads.cut_eq_empty {s : State} {line : String} {n : Int} {cut : Option String}
    (h : Reads s line cut .prose) (hblock : (Visit.mk s line n).isInBlock = true) :
    (Visit.mk s line n).cut = ⟨"", n⟩ := by
  generalize hprose : State.prose = after at h
  cases h with
  | prose hno =>
    rw [Visit.isInBlock, hno] at hblock
    cases hblock
  | blank hempty => rw [Visit.cut, Visit.margin, hempty]
  | behindPrompt => split at hprose <;> cases hprose
  | opening | nextPrompt | output => cases hprose

end DocExamples.Margin

namespace DocExamples.Transcript

open Text Transducer Margin

/-! ### Transcripts with the same groups -/

/-- The transcripts give the same groups, whether a group is open in front of them or not. -/
def SameGroups (identifier : Identifier) (lines others : List SourceLine) : Prop :=
  groupsOf identifier lines = groupsOf identifier others ∧
    ∀ start finished current,
      groupsInside identifier start finished current lines =
        groupsInside identifier start finished current others

section SameGroups

variable {identifier : Identifier} {lines others : List SourceLine}

theorem groupsOf_cons_congr {line : SourceLine}
    (h : groupsOf identifier lines = groupsOf identifier others)
    (hopening : isOpening line.text = true → SameGroups identifier lines others) :
    groupsOf identifier (line :: lines) = groupsOf identifier (line :: others) := by
  cases hline : isOpening line.text with
  | true =>
    rw [groupsOf_cons_opening identifier _ hline, groupsOf_cons_opening identifier _ hline]
    exact (hopening hline).2 _ _ _
  | false =>
    rw [groupsOf_cons_other identifier _ hline, groupsOf_cons_other identifier _ hline, h]

theorem SameGroups.cons {line : SourceLine}
    (h : groupsOf identifier lines = groupsOf identifier others)
    (hline : isTerminator line.text = false → SameGroups identifier lines others) :
    SameGroups identifier (line :: lines) (line :: others) := by
  have hopening : isOpening line.text = true → SameGroups identifier lines others := by
    intro hopening
    exact hline (not_terminator_of_isPromptLine (by rw [isPromptLine, hopening, Bool.true_or]))
  refine ⟨groupsOf_cons_congr h hopening, ?_⟩
  intro start finished current
  cases hterminator : isTerminator line.text with
  | true =>
    rw [groupsInside_terminator _ _ _ _ _ hterminator,
      groupsInside_terminator _ _ _ _ _ hterminator, h]
  | false =>
    have hsame := (hline hterminator).2
    cases hnext : isOpening line.text && isAnswered current with
    | true =>
      obtain ⟨hopening, hanswered⟩ := Bool.and_eq_true_iff.mp hnext
      rw [groupsInside_next _ _ _ _ _ hopening hanswered,
        groupsInside_next _ _ _ _ _ hopening hanswered]
      exact hsame _ _ _
    | false =>
      rw [groupsInside_same _ _ _ _ _ hterminator hnext,
        groupsInside_same _ _ _ _ _ hterminator hnext]
      exact hsame _ _ _

end SameGroups

/-! ### Lines outside of blocks -/

/-- The lines that are left out can stay as empty ones.  Outside of blocks no group is open, as the
last line given out ended it. -/
theorem groupsOf_visits (identifier : Identifier) {s final : State}
    {lines : List (String × Int)} {out : List SourceLine} (hs : s.IsBetween)
    (h : feed Margin.reader.settle s lines = .ok (out, final)) :
    groupsOf identifier ((visits s lines).map (·.plain)) =
        groupsOf identifier (out.map unnumbered) ∧
      (s ≠ .prose → SameGroups identifier ((visits s lines).map (·.plain))
        (out.map unnumbered)) := by
  induction lines generalizing s out with
  | nil =>
    cases h
    exact ⟨rfl, fun _ => ⟨rfl, fun _ _ _ => rfl⟩⟩
  | cons x rest ih =>
    obtain ⟨line, n⟩ := x
    obtain ⟨first, after, more, hstep, hrest, rfl⟩ := feed_cons_eq_ok h
    obtain ⟨cut, hreads, rfl⟩ := reads_of_settle hs hstep
    obtain ⟨hgroups, hsame⟩ := ih hreads.isBetween hrest
    rw [visits_cons_of_ok rest hstep, List.map_cons, hreads.eq_cut]
    cases hblock : (Visit.mk s line n).isInBlock with
    | false =>
      have hprose : s = .prose := by
        cases s with
        | prose => rfl
        | _ => cases hblock
      refine ⟨?_, fun hne => (hne hprose).elim⟩
      rw [plain_of_not_isInBlock hblock, groupsOf_cons_other identifier _ rfl]
      exact hgroups
    | true =>
      -- Behind a line that ends no group the reader is still in the block.
      have hline : isTerminator (unnumbered (Visit.mk s line n).cut).text = false →
          SameGroups identifier ((visits after rest).map (·.plain)) (more.map unnumbered) := by
        intro hterminator
        refine hsame ?_
        rintro rfl
        rw [hreads.cut_eq_empty hblock] at hterminator
        cases hterminator
      have hcons := SameGroups.cons hgroups hline
      rw [plain_of_isInBlock hblock]
      exact ⟨hcons.1, fun _ => hcons⟩

/-! ### Whole documents -/

section Documents

variable {identifier : Identifier} {doc : String} {line : Int} {groups : List Group}

theorem exists_feed_of_extract (h : extract identifier doc line = .ok groups) :
    ∃ out final, groups = groupsOf identifier (out.map unnumbered) ∧
      feed Margin.reader.settle .prose (number (line + 1) (documentLines doc)) =
        .ok (out, final) := by
  obtain ⟨transcript, htranscript, hgroups⟩ := groupsOf_of_extract h
  obtain ⟨final, hfeed⟩ := exists_feed_of_normalize htranscript
  exact ⟨transcript, final, hgroups, hfeed⟩

/-- **Every line of a document counts.**  The groups of a document are those of its lines, of which
the ones outside of blocks are empty. -/
theorem eq_groupsOf_visits (h : extract identifier doc line = .ok groups) :
    groups = groupsOf identifier ((documentVisits doc line).map (·.plain)) := by
  obtain ⟨out, final, rfl, hfeed⟩ := exists_feed_of_extract h
  exact (groupsOf_visits identifier isBetween_prose hfeed).1.symm

theorem reads_of_mem_documentVisits (h : extract identifier doc line = .ok groups) :
    ∀ v ∈ documentVisits doc line, ∃ cut after, Reads v.state v.line cut after := by
  obtain ⟨out, final, -, hfeed⟩ := exists_feed_of_extract h
  exact reads_of_mem_visits isBetween_prose hfeed

theorem map_documentVisits (h : extract identifier doc line = .ok groups) :
    (documentVisits doc line).map (fun v => (v.line, v.number)) =
      number (line + 1) (documentLines doc) := by
  obtain ⟨out, final, -, hfeed⟩ := exists_feed_of_extract h
  exact map_visits hfeed

theorem map_line_documentVisits (h : extract identifier doc line = .ok groups) :
    (documentVisits doc line).map (·.line) = documentLines doc := by
  have hlines := congrArg (List.map Prod.fst) (map_documentVisits h)
  rw [List.map_map, number, List.map_map] at hlines
  exact hlines.trans (List.zipIdx_map_fst 0 (documentLines doc))

/-- The number of a line is its place in the document. -/
theorem number_of_documentVisits (h : extract identifier doc line = .ok groups)
    {before after : List Visit} {v : Visit}
    (hvisits : documentVisits doc line = before ++ v :: after) :
    v.number = line + 1 + before.length ∧ (documentLines doc)[before.length]? = some v.line := by
  have hnumbers := map_documentVisits h
  rw [hvisits, List.map_append, List.map_cons] at hnumbers
  have hget := congrArg (·[before.length]?) hnumbers
  simp only [getElem?_number] at hget
  rw [List.getElem?_append_right (by simp), List.length_map, Nat.sub_self,
    List.getElem?_cons_zero] at hget
  obtain ⟨text, htext, heq⟩ := Option.map_eq_some_iff.mp hget.symm
  obtain ⟨rfl, hnumber⟩ := Prod.mk.inj heq
  exact ⟨hnumber.symm, htext⟩

end Documents

/-! ### Line feeds -/

theorem subset_of_afterNumber {cs rest : List Char} (h : Prompt.afterNumber cs = some rest) :
    rest ⊆ cs := by
  fun_induction Prompt.afterNumber cs with
  | case1 => cases h
  | case2 after =>
    obtain rfl := Option.some.inj h
    intro c hc
    exact List.mem_cons_of_mem _ (List.mem_cons_of_mem _ hc)
  | case3 c more hno ih => exact fun d hd => List.mem_cons_of_mem _ (ih h hd)

theorem mem_of_mem_unnumbered {l : SourceLine} {c : Char}
    (h : c ∈ (unnumbered l).text.toList) : c ∈ l.text.toList ∨ c = '>' := by
  rw [unnumbered, Prompt.dropNumber?] at h
  split at h
  · cases hrest : Prompt.afterNumber (l.text.toList.drop 5) with
    | none =>
      rw [hrest] at h
      exact Or.inl h
    | some rest =>
      rw [hrest] at h
      change c ∈ (String.ofList (l.text.toList.take 3 ++ '>' :: rest)).toList at h
      rw [String.toList_ofList] at h
      rcases List.mem_append.mp h with h | h
      · exact Or.inl (List.mem_of_mem_take h)
      · rcases List.mem_cons.mp h with h | h
        · exact Or.inr h
        · exact Or.inl (List.mem_of_mem_drop (subset_of_afterNumber hrest h))
  · exact Or.inl h

theorem newline_not_mem_plain {v : Visit} (h : '\n' ∉ v.line.toList) :
    '\n' ∉ v.plain.text.toList := by
  intro hmem
  rw [Visit.plain] at hmem
  split at hmem
  · rcases mem_of_mem_unnumbered hmem with hmem | heq
    · rw [Visit.cut, toList_dropChars] at hmem
      exact h (List.mem_of_mem_drop hmem)
    · cases heq
  · cases hmem

end DocExamples.Transcript
