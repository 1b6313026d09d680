import DocExamples.Proofs.PromptNumbers
import DocExamples.Proofs.TranscriptGrammar

/-!
# Transcripts are read by their grammar

The reader of transcripts looks at a line up to three times and keeps five accumulators.  The
bridge to the grammar has two halves.  `read_eq` removes the repeated looks: numbered prompts may be
rewritten before anything is read, and then each line advances the reader once.  `foldl_advance`
computes the state behind some lines from these lines alone (`idle`, `inGroup`).
-/

namespace DocExamples.Transcript

open Text Transducer

/-! ### What one line does, however often it is looked at -/

/-- The reading behind a line whose prompt is plain. -/
def advance (r : Reading) (line : SourceLine) : Reading :=
  if isOpening line.text then
    if !r.source.isEmpty && !r.output.isEmpty then r.close.start line
    else if !r.source.isEmpty then r.extend line
    else r.start line
  else if isContinuation line.text && !r.source.isEmpty then r.extend line
  else if r.source.isEmpty && r.output.isEmpty then { r with isFresh := true, prompts := [] }
  else if isTerminator line.text then { r.close with isFresh := true }
  else r.answer line

theorem settle_of_plain (r : Reading) {line : SourceLine}
    (hplain : Prompt.isNumbered line.text = false) :
    reader.settle r line = .ok ([], advance r line) := by
  cases hopening : isOpening line.text with
  | true =>
    cases hpending : !r.source.isEmpty && !r.output.isEmpty with
    | true =>
      have hagain : reader.turn r line = .ok (.again r.close line) := by
        simp only [reader, turn, hopening, hpending, if_true]
      have htaken : reader.turn r.close line = .ok (.taken [] (r.close.start line)) := by
        simp [reader, turn, hopening, Reading.close]
      rw [Rereader.settle_of_again hagain, Rereader.settle_of_taken htaken]
      simp only [advance, hopening, hpending, if_true]
    | false =>
      apply Rereader.settle_of_taken
      simp only [reader, turn, advance, hopening, hpending, Bool.false_eq_true, if_true, if_false]
      split <;> rfl
  | false =>
    apply Rereader.settle_of_taken
    simp only [reader, turn, advance, hopening, hplain, Bool.false_eq_true, if_false]
    repeat' split
    all_goals rfl

theorem settle_of_numbered (r : Reading) {line : SourceLine}
    (hnumbered : Prompt.isNumbered line.text = true) :
    reader.settle r line = plainLine line >>= reader.settle r := by
  have hno : ¬(isOpening line.text = true ∨ isContinuation line.text = true) := by
    intro h
    rw [Prompt.isNumbered_of_startsWith h] at hnumbered
    cases hnumbered
  simp only [not_or, Bool.not_eq_true] at hno
  cases htext : Prompt.dropNumber line.number line.text with
  | error e =>
    have herror : reader.turn r line = .error e := by
      simp only [reader, turn, hno, hnumbered, htext, Bool.false_and, Bool.false_eq_true, if_true,
        if_false]
      rfl
    rw [Rereader.settle_of_error herror, plainLine, Prompt.plain, if_pos hnumbered, htext]
    rfl
  | ok text =>
    have hagain : reader.turn r line = .ok (.again r { line with text := text }) := by
      simp only [reader, turn, hno, hnumbered, htext, Bool.false_and, Bool.false_eq_true, if_true,
        if_false]
      rfl
    rw [Rereader.settle_of_again hagain, plainLine, Prompt.plain, if_pos hnumbered, htext]
    rfl

/-- A line is read as its plain form, and advances the reader once. -/
theorem settle_eq (r : Reading) (line : SourceLine) :
    reader.settle r line = plainLine line >>= fun plain => .ok ([], advance r plain) := by
  have hplain : ∀ plain, plainLine line = .ok plain →
      reader.settle r plain = .ok ([], advance r plain) :=
    fun plain h => settle_of_plain r (isNumbered_of_plainLine h)
  cases hnumbered : Prompt.isNumbered line.text with
  | true =>
    rw [settle_of_numbered r hnumbered]
    cases hline : plainLine line with
    | error e => rfl
    | ok plain => exact hplain plain hline
  | false =>
    rw [settle_of_plain r hnumbered, plainLine, Prompt.plain, hnumbered]
    rfl

theorem feed_eq (r : Reading) (lines : List SourceLine) :
    feed reader.settle r lines =
      (lines.mapM plainLine).map fun plain => ([], plain.foldl advance r) := by
  induction lines generalizing r with
  | nil => rfl
  | cons line rest ih =>
    rw [feed_cons, settle_eq, List.mapM_cons]
    cases plainLine line with
    | error e => rfl
    | ok plain =>
      change (fun q => (([] : List OpenGroup) ++ q.1, q.2)) <$>
        feed reader.settle (advance r plain) rest = _
      rw [ih (advance r plain)]
      cases rest.mapM plainLine <;> rfl

/-- **The numbers of prompts can be dropped before anything is read**: the reader finds the first
prompt that is not closed, or else advances by one plain line after the other. -/
theorem read_eq (r : Reading) (lines : List SourceLine) :
    reader.run Reading.finish r lines =
      lines.mapM plainLine >>= fun plain => .ok (plain.foldl advance r).finish := by
  rw [Rereader.run, run_eq_feed, feed_eq]
  cases lines.mapM plainLine <;> rfl

/-! ### The state behind some lines -/

/-- The reader outside of a group. -/
def idle (groups : List OpenGroup) : Reading := { groups := groups }

/-- The reader inside a group that opened at line `start`: `finished` holds the lines of its
finished examples, and `current` those of the example being read. -/
def inGroup (groups : List OpenGroup) (start : Int) (finished : List (List SourceLine))
    (current : List SourceLine) : Reading where
  source := ((current.filter isPromptLine).map fun l => Prompt.fragment l.text).reverse
  output := ((current.filter (!isPromptLine ·)).map (·.text)).reverse
  prompts := ((current.filter isPromptLine).map (·.text)).reverse
  isFresh := false
  groups := ⟨start, (finished.map exampleOf).reverse⟩ :: groups

/-- The groups behind the end of a group's lines. -/
def withGroup (groups : List OpenGroup) (start : Int) (examples : List (List SourceLine)) :
    List OpenGroup :=
  ⟨start, (examples.map exampleOf).reverse⟩ :: groups

section States

variable (groups : List OpenGroup) (start : Int) (finished : List (List SourceLine))
  {current : List SourceLine} {line : SourceLine}

theorem toExample_inGroup :
    (inGroup groups start finished current).toExample = exampleOf current := by
  simp [Reading.toExample, inGroup, exampleOf]

theorem source_inGroup_isEmpty (hprompt : ∃ l ∈ current, isPromptLine l = true) :
    (inGroup groups start finished current).source.isEmpty = false := by
  obtain ⟨l, hl, hp⟩ := hprompt
  have : l ∈ current.filter isPromptLine := List.mem_filter.mpr ⟨hl, hp⟩
  simpa [inGroup, List.isEmpty_iff] using ⟨l, hl, hp⟩

theorem output_inGroup_isEmpty :
    (inGroup groups start finished current).output.isEmpty = !isAnswered current := by
  rw [Bool.eq_iff_iff]
  simp [inGroup, isAnswered]

theorem close_inGroup :
    (inGroup groups start finished current).close =
      { idle (withGroup groups start (finished ++ [current])) with isFresh := false } := by
  simp only [Reading.close, toExample_inGroup]
  simp [inGroup, idle, withGroup]

theorem advance_idle_opening (h : isOpening line.text = true) :
    advance (idle groups) line = inGroup groups line.number [] [line] := by
  simp [advance, idle, inGroup, Reading.start, h, isPromptLine]

theorem advance_idle_other (h : isOpening line.text = false) :
    advance (idle groups) line = idle groups := by
  simp [advance, idle, h]

theorem extend_inGroup (h : isPromptLine line = true) :
    (inGroup groups start finished current).extend line =
      inGroup groups start finished (current ++ [line]) := by
  simp [Reading.extend, inGroup, h]

theorem answer_inGroup (h : isPromptLine line = false) :
    (inGroup groups start finished current).answer line =
      inGroup groups start finished (current ++ [line]) := by
  simp [Reading.answer, inGroup, h]

variable (hprompt : ∃ l ∈ current, isPromptLine l = true)

include hprompt

theorem advance_inGroup_next (h : isOpening line.text = true)
    (hanswered : isAnswered current = true) :
    advance (inGroup groups start finished current) line =
      inGroup groups start (finished ++ [current]) [line] := by
  have hsource := source_inGroup_isEmpty groups start finished hprompt
  simp only [advance, h, hsource, output_inGroup_isEmpty, hanswered, close_inGroup, Bool.not_false,
    Bool.not_true, Bool.and_true, if_true]
  simp [Reading.start, idle, inGroup, withGroup, isPromptLine, h]

theorem advance_inGroup_same (hline : isTerminator line.text = false)
    (hsame : (isOpening line.text && isAnswered current) = false) :
    advance (inGroup groups start finished current) line =
      inGroup groups start finished (current ++ [line]) := by
  have hsource := source_inGroup_isEmpty groups start finished hprompt
  cases hopening : isOpening line.text with
  | true =>
    have hanswered : isAnswered current = false := by simpa [hopening] using hsame
    rw [← extend_inGroup groups start finished (by simp [isPromptLine, hopening])]
    simp [advance, hopening, hsource, output_inGroup_isEmpty, hanswered]
  | false =>
    cases hcontinuation : isContinuation line.text with
    | true =>
      rw [← extend_inGroup groups start finished (by simp [isPromptLine, hcontinuation])]
      simp [advance, hopening, hcontinuation, hsource]
    | false =>
      rw [← answer_inGroup groups start finished (by simp [isPromptLine, hopening, hcontinuation])]
      simp [advance, hopening, hcontinuation, hsource, hline]

theorem advance_inGroup_end (hline : isTerminator line.text = true) :
    advance (inGroup groups start finished current) line =
      idle (withGroup groups start (finished ++ [current])) := by
  have hsource := source_inGroup_isEmpty groups start finished hprompt
  have hno : isPromptLine line = false := by
    by_contra h
    rw [not_terminator_of_isPromptLine (Bool.not_eq_false _ ▸ h)] at hline
    cases hline
  simp only [isPromptLine, Bool.or_eq_false_iff] at hno
  simp only [advance, hno, hsource, hline, close_inGroup, Bool.false_and, Bool.false_eq_true,
    if_true, if_false]
  rfl

theorem finish_inGroup :
    (inGroup groups start finished current).finish =
      (withGroup groups start (finished ++ [current])).reverse := by
  have hsource := source_inGroup_isEmpty groups start finished hprompt
  rw [Reading.finish, hsource, close_inGroup]
  simp [idle]

end States

/-! ### The states that are reached -/

/-- The reader of a transcript stands outside of a group, or in one behind a prompt. -/
inductive IsReached : Reading → Prop where
  | idle (groups : List OpenGroup) : IsReached (idle groups)
  | inGroup (groups : List OpenGroup) (start : Int) (finished : List (List SourceLine))
      {current : List SourceLine} (h : ∃ l ∈ current, isPromptLine l = true) :
      IsReached (inGroup groups start finished current)

theorem IsReached.advance {r : Reading} (h : IsReached r) (line : SourceLine) :
    IsReached (advance r line) := by
  have hopens : isOpening line.text = true → ∃ l ∈ [line], isPromptLine l = true := by
    intro hopening
    exact ⟨line, List.mem_cons_self, by rw [isPromptLine, hopening, Bool.true_or]⟩
  cases h with
  | idle groups =>
    cases hopening : isOpening line.text with
    | true =>
      rw [advance_idle_opening groups hopening]
      exact .inGroup _ _ _ (hopens hopening)
    | false =>
      rw [advance_idle_other groups hopening]
      exact .idle _
  | inGroup groups start finished hprompt =>
    cases hline : isTerminator line.text with
    | true =>
      rw [advance_inGroup_end groups start finished hprompt hline]
      exact .idle _
    | false =>
      cases hnext : isOpening line.text && isAnswered _ with
      | true =>
        obtain ⟨hopening, hanswered⟩ := Bool.and_eq_true_iff.mp hnext
        rw [advance_inGroup_next groups start finished hprompt hopening hanswered]
        exact .inGroup _ _ _ (hopens hopening)
      | false =>
        rw [advance_inGroup_same groups start finished hprompt hline hnext]
        obtain ⟨l, hl, hp⟩ := hprompt
        exact .inGroup _ _ _ ⟨l, List.mem_append_left _ hl, hp⟩

theorem isReached_foldl {r : Reading} (h : IsReached r) (lines : List SourceLine) :
    IsReached (lines.foldl Transcript.advance r) := by
  induction lines generalizing r with
  | nil => exact h
  | cons line rest ih => exact ih (h.advance line)

theorem isReached_of_feed {lines : List SourceLine} {out : List OpenGroup} {r : Reading}
    (h : feed reader.settle {} lines = .ok (out, r)) : IsReached r := by
  rw [feed_eq] at h
  cases hplain : lines.mapM plainLine with
  | error e =>
    rw [hplain] at h
    cases h
  | ok plain =>
    rw [hplain] at h
    cases h
    exact isReached_foldl (.idle []) plain

/-- Whatever is being read has a group that it belongs to. -/
theorem IsReached.groups_ne_nil {r : Reading} (h : IsReached r)
    (hpending : r.source ≠ [] ∨ r.output ≠ []) : r.groups ≠ [] := by
  cases h with
  | idle groups => exact (hpending.elim (· rfl) (· rfl)).elim
  | inGroup groups start finished => exact List.cons_ne_nil _ _

/-! ### Reading a transcript is reading its grammar -/

theorem map_close_withGroup (identifier : Identifier) (groups : List OpenGroup) (start : Int)
    (examples : List (List SourceLine)) :
    (withGroup groups start examples).reverse.map (OpenGroup.close identifier) =
      groups.reverse.map (OpenGroup.close identifier) ++
        [⟨start, identifier, examples.map exampleOf⟩] := by
  simp [withGroup, OpenGroup.close]

/-- The groups read from any state behind some lines: those that are closed already, and those
that the grammar gives to the lines to come. -/
theorem foldl_advance (identifier : Identifier) (lines : List SourceLine) :
    (∀ groups, (lines.foldl advance (idle groups)).finish.map (OpenGroup.close identifier) =
      groups.reverse.map (OpenGroup.close identifier) ++ groupsOf identifier lines) ∧
    (∀ groups start finished current, (∃ l ∈ current, isPromptLine l = true) →
      (lines.foldl advance (inGroup groups start finished current)).finish.map
          (OpenGroup.close identifier) =
        groups.reverse.map (OpenGroup.close identifier) ++
          groupsInside identifier start finished current lines) := by
  induction lines with
  | nil =>
    refine ⟨fun groups => ?_, fun groups start finished current hprompt => ?_⟩
    · simp [groupsOf_nil, Reading.finish, idle]
    · rw [List.foldl_nil, finish_inGroup groups start finished hprompt, map_close_withGroup,
        groupsInside_nil]
  | cons line rest ih =>
    obtain ⟨ihIdle, ihInside⟩ := ih
    refine ⟨fun groups => ?_, fun groups start finished current hprompt => ?_⟩
    · rw [List.foldl_cons]
      cases hopening : isOpening line.text with
      | true =>
        rw [advance_idle_opening groups hopening, groupsOf_cons_opening identifier rest hopening]
        exact ihInside _ _ _ _ ⟨line, by simp, by simp [isPromptLine, hopening]⟩
      | false =>
        rw [advance_idle_other groups hopening, groupsOf_cons_other identifier rest hopening]
        exact ihIdle groups
    · rw [List.foldl_cons]
      cases hline : isTerminator line.text with
      | true =>
        rw [advance_inGroup_end groups start finished hprompt hline, ihIdle, map_close_withGroup,
          groupsInside_terminator identifier start finished current rest hline, List.append_assoc]
        rfl
      | false =>
        -- Inside of a group only an opening prompt behind output starts an example.
        cases hnext : isOpening line.text && isAnswered current with
        | true =>
          obtain ⟨hopening, hanswered⟩ := Bool.and_eq_true_iff.mp hnext
          rw [advance_inGroup_next groups start finished hprompt hopening hanswered,
            groupsInside_next identifier start finished current rest hopening hanswered]
          exact ihInside _ _ _ _ ⟨line, by simp, by simp [isPromptLine, hopening]⟩
        | false =>
          rw [advance_inGroup_same groups start finished hprompt hline hnext,
            groupsInside_same identifier start finished current rest hline hnext]
          obtain ⟨l, hl, hp⟩ := hprompt
          exact ihInside _ _ _ _ ⟨l, by simp [hl], hp⟩

/-- A transcript is scanned in three phases: its prompts lose their numbers, the grammar gives the
groups, and the groups are checked. -/
theorem scan_eq (identifier : Identifier) (lines : List SourceLine) :
    scan identifier lines = do
      let plain ← lines.mapM plainLine
      (groupsOf identifier plain).forM checkGroup
      return groupsOf identifier plain := by
  rw [scan, read_eq]
  cases lines.mapM plainLine with
  | error e => rfl
  | ok plain =>
    have hgroups := (foldl_advance identifier plain).1 []
    simp only [List.reverse_nil, List.map_nil, List.nil_append] at hgroups
    change (do
      let found := (plain.foldl advance (idle [])).finish.map (OpenGroup.close identifier)
      found.forM checkGroup
      return found) = _
    rw [hgroups]
    rfl

/-- What a transcript gives is what the grammar gives, and it has passed the check. -/
theorem groupsOf_of_scan {identifier : Identifier} {lines : List SourceLine} {groups : List Group}
    (h : scan identifier lines = .ok groups) :
    lines.mapM plainLine = .ok (lines.map unnumbered) ∧
      groups = groupsOf identifier (lines.map unnumbered) ∧ groups.forM checkGroup = .ok () := by
  rw [scan_eq] at h
  obtain ⟨plain, hplain, h⟩ := exists_of_bind_eq_ok h
  obtain ⟨_, hcheck, h⟩ := exists_of_bind_eq_ok h
  cases h
  rw [← eq_map_unnumbered hplain]
  exact ⟨hplain, rfl, hcheck⟩

/-- A document from which groups are read has a transcript, and the grammar gives the groups. -/
theorem groupsOf_of_extract {identifier : Identifier} {doc : String} {line : Int}
    {groups : List Group} (h : extract identifier doc line = .ok groups) :
    ∃ transcript, Margin.normalize (documentLines doc) (line + 1) = .ok transcript ∧
      groups = groupsOf identifier (transcript.map unnumbered) := by
  rw [extract] at h
  obtain ⟨transcript, htranscript, h⟩ := exists_of_bind_eq_ok h
  exact ⟨transcript, htranscript, (groupsOf_of_scan h).2.1⟩

/-! ### Well-formed transcripts -/

theorem expectsException_eq (e : Example) :
    e.expectsException = startsWith Expectation.exceptionMark e.expected := by
  simp only [Example.expectsException, Example.expectation, Expectation.ofText]
  by_cases hempty : e.expected = ""
  · rw [hempty]
    rfl
  · cases hmark : startsWith Expectation.exceptionMark e.expected with
    | true => simp only [hempty, if_true, if_false]
    | false =>
      simp only [hempty, Bool.false_eq_true, if_false]
      cases Expectation.isShown e.expected <;> rfl

theorem forM_checkGroup {groups : List Group}
    (h : ∀ g ∈ groups, g.examples.countP (fun e => startsWith "** (" e.expected) ≤ 1) :
    groups.forM checkGroup = .ok () := by
  induction groups with
  | nil => rfl
  | cons g rest ih =>
    have hg : checkGroup g = .ok () := by
      have hone := h g (by simp)
      rw [List.countP_eq_length_filter] at hone
      simp only [checkGroup, expectsException_eq, Expectation.exceptionMark]
      exact if_neg (by omega)
    rw [List.forM_eq_forM, List.forM_cons, hg]
    exact ih fun g' hg' => h g' (by simp [hg'])

theorem scan_of_ok {identifier : Identifier} {lines plain : List SourceLine}
    (hplain : lines.mapM plainLine = .ok plain)
    (hcheck : (groupsOf identifier plain).forM checkGroup = .ok ()) :
    scan identifier lines = .ok (groupsOf identifier plain) := by
  rw [scan_eq, hplain]
  change ((groupsOf identifier plain).forM checkGroup >>= fun _ =>
    .ok (groupsOf identifier plain)) = _
  rw [hcheck]
  rfl

/-- **The reader of transcripts is its grammar.**  If every numbered prompt is closed, and no group
of the grammar expects two exceptions, then the groups read are those of the grammar. -/
theorem scan_eq_groupsOf (identifier : Identifier) (lines : List SourceLine)
    (hclosed : ∀ line ∈ lines, Prompt.isNumbered line.text = true → ClosesNumber line.text)
    (hone : ∀ g ∈ groupsOf identifier (lines.map unnumbered),
      g.examples.countP (fun e => startsWith "** (" e.expected) ≤ 1) :
    scan identifier lines = .ok (groupsOf identifier (lines.map unnumbered)) := by
  have hplain := mapM_plainLine hclosed
  have hcheck := forM_checkGroup hone
  exact scan_of_ok hplain hcheck

/-- A transcript with two groups: numbered prompts, a continuation behind an output line, and a
fence between the groups. -/
def sampleTranscript : List SourceLine :=
  [⟨"Lists:", 1⟩, ⟨"iex(1)> a = [", 2⟩, ⟨"...(1)> 1]", 3⟩, ⟨"[1]", 4⟩, ⟨"...> # still", 5⟩,
    ⟨"iex> hd(a)", 6⟩, ⟨"1", 7⟩, ⟨"```", 8⟩, ⟨"iex(2)> a + :b", 9⟩,
    ⟨"** (ArithmeticError) bad", 10⟩]

theorem scan_sampleTranscript :
    (∀ line ∈ sampleTranscript, Prompt.isNumbered line.text = true → ClosesNumber line.text) ∧
    scan .moduledoc sampleTranscript =
      .ok [⟨2, .moduledoc,
          [⟨["a = [", "1]", "# still"], "[1]", "\niex> a = [\n...> 1]\n...> # still\n[1]"⟩,
            ⟨["hd(a)"], "1", "\niex> hd(a)\n1"⟩]⟩,
        ⟨9, .moduledoc,
          [⟨["a + :b"], "** (ArithmeticError) bad",
            "\niex> a + :b\n** (ArithmeticError) bad"⟩]⟩] := by
  have hclosed : ∀ line ∈ sampleTranscript,
      Prompt.isNumbered line.text = true → ClosesNumber line.text := by decide +kernel
  refine ⟨hclosed, ?_⟩
  rw [scan_eq_groupsOf .moduledoc sampleTranscript hclosed (by decide +kernel)]
  decide +kernel

end DocExamples.Transcript
