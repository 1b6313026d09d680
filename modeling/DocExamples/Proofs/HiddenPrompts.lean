import DocExamples.Proofs.MarginLines
import DocExamples.Proofs.TranscriptReading
import Mathlib.Data.List.Flatten

/-!
# Prompts that a margin hides

Every opening prompt of a transcript becomes a line of some example
(`openings_sublist_sourceLines`), but the reader of margins does not let every prompt of a document
through.  Among output lines it takes a line that is no longer than the margin for an empty line
before it looks for a prompt.  The main statement is that these are the only prompts lost
(`prompts_sublist_iff`).
-/

namespace DocExamples.Margin

open Text Transducer

/-! ### Lines and the states in front of them -/

/-- A line, with the state of the reader in front of it. -/
structure Visit where
  state : State
  line : String
  number : Int
deriving DecidableEq, Repr

/-- The line holds a plain opening prompt behind its white space. -/
def Visit.isPrompt (v : Visit) : Bool := startsWith "iex>" (trimStart v.line)

/-- The line stands among output lines, and the margin is at least as wide as the line. -/
def Visit.isHidden (v : Visit) : Bool :=
  match v.state with
  | .output margin => v.line.length ≤ margin
  | _ => false

/-- The line without its white space. -/
def Visit.trimmed (v : Visit) : SourceLine := ⟨trimStart v.line, v.number⟩

/-- The lines that are read from a state on, up to the first that cannot be read. -/
def visits (s : State) : List (String × Int) → List Visit
  | [] => []
  | (line, n) :: rest =>
    ⟨s, line, n⟩ ::
      match reader.settle s (line, n) with
      | .ok (_, after) => visits after rest
      | .error _ => []

theorem visits_cons_of_ok {s after : State} {line : String} {n : Int} {out : List SourceLine}
    (rest : List (String × Int)) (h : reader.settle s (line, n) = .ok (out, after)) :
    visits s ((line, n) :: rest) = ⟨s, line, n⟩ :: visits after rest := by
  rw [visits, h]

/-- All lines are visited if all can be read. -/
theorem map_visits {s final : State} {lines : List (String × Int)} {out : List SourceLine}
    (h : feed reader.settle s lines = .ok (out, final)) :
    (visits s lines).map (fun v => (v.line, v.number)) = lines := by
  induction lines generalizing s out with
  | nil => rfl
  | cons x rest ih =>
    obtain ⟨first, after, more, hstep, hrest, -⟩ := feed_cons_eq_ok h
    rw [visits_cons_of_ok rest hstep, List.map_cons, ih hrest]

theorem opens_of_isPrompt {v : Visit} (h : v.isPrompt = true) :
    Prompt.opens (trimStart v.line) = true := by
  simp only [Visit.isPrompt] at h
  rw [Prompt.opens, h, Bool.true_or]

theorem dropChars_eq_empty_iff (n : Nat) (s : String) : dropChars n s = "" ↔ s.length ≤ n := by
  rw [← String.toList_eq_nil_iff, toList_dropChars, List.drop_eq_nil_iff, String.length_toList]

/-- A prompt that is not hidden is given out without its white space. -/
theorem Reads.eq_trimmed {s after : State} {line : String} {n : Int} {cut : Option String}
    (h : Reads s line cut after) (hprompt : (Visit.mk s line n).isPrompt = true)
    (hvisible : (Visit.mk s line n).isHidden = false) : cut = some (trimStart line) := by
  have hopens := opens_of_isPrompt hprompt
  cases h with
  | prose hno =>
    rw [hno] at hopens
    cases hopens
  | opening => rfl
  | behindPrompt hline => rw [hline.resolve_left (ne_empty_of_opens hopens)]
  | blank hempty =>
    have hshort := (dropChars_eq_empty_iff _ _).mp hempty
    simp [Visit.isHidden, hshort] at hvisible
  | nextPrompt => rfl
  | output _ hno =>
    rw [hno] at hopens
    cases hopens

/-- A hidden line is given out as an empty one. -/
theorem Reads.eq_empty {s after : State} {line : String} {n : Int} {cut : Option String}
    (h : Reads s line cut after) (hhidden : (Visit.mk s line n).isHidden = true) :
    cut = some "" := by
  have hempty : ∀ margin, line.length ≤ margin → dropChars margin line = "" :=
    fun margin => (dropChars_eq_empty_iff margin line).mpr
  cases h with
  | blank => rfl
  | nextPrompt hne => exact (hne (hempty _ (by simpa [Visit.isHidden] using hhidden))).elim
  | output hne => exact (hne (hempty _ (by simpa [Visit.isHidden] using hhidden))).elim
  | _ => simp [Visit.isHidden] at hhidden

/-! ### What is given out for them -/

theorem visible_sublist {s final : State} {lines : List (String × Int)} {out : List SourceLine}
    (hs : s.IsBetween) (h : feed reader.settle s lines = .ok (out, final)) :
    (((visits s lines).filter fun v => v.isPrompt && !v.isHidden).map Visit.trimmed).Sublist
      out := by
  induction lines generalizing s out with
  | nil => simp [visits]
  | cons x rest ih =>
    obtain ⟨line, n⟩ := x
    obtain ⟨first, after, more, hstep, hrest, rfl⟩ := feed_cons_eq_ok h
    obtain ⟨cut, hreads, rfl⟩ := reads_of_settle hs hstep
    have hmore := ih hreads.isBetween hrest
    rw [visits_cons_of_ok rest hstep, List.filter_cons]
    split
    · next hvisible =>
      obtain ⟨hprompt, hhidden⟩ := Bool.and_eq_true_iff.mp hvisible
      rw [hreads.eq_trimmed hprompt (by simpa using hhidden)]
      exact hmore.cons_cons _
    · exact hmore.trans (List.sublist_append_right _ _)

theorem number_mem_of_feed {s final : State} {lines : List (String × Int)} {out : List SourceLine}
    (hs : s.IsBetween) (h : feed reader.settle s lines = .ok (out, final)) :
    ∀ l ∈ out, l.number ∈ lines.map (·.2) := by
  induction lines generalizing s out with
  | nil =>
    cases h
    simp
  | cons x rest ih =>
    obtain ⟨first, after, more, hstep, hrest, rfl⟩ := feed_cons_eq_ok h
    obtain ⟨cut, hreads, rfl⟩ := reads_of_settle hs hstep
    intro l hl
    rcases List.mem_append.mp hl with hl | hl
    · cases cut with
      | none => simp at hl
      | some text =>
        obtain rfl : l = ⟨text, x.2⟩ := by simpa using hl
        simp
    · exact List.mem_cons_of_mem _ (ih hreads.isBetween hrest l hl)

/-- As no number occurs twice, nothing but an empty line is given out for a hidden line. -/
theorem text_eq_empty_of_hidden {s final : State} {lines : List (String × Int)}
    {out : List SourceLine} (hs : s.IsBetween)
    (h : feed reader.settle s lines = .ok (out, final)) (hnodup : (lines.map (·.2)).Nodup) :
    ∀ v ∈ visits s lines, v.isHidden = true → ∀ l ∈ out, l.number = v.number → l.text = "" := by
  induction lines generalizing s out with
  | nil => simp [visits]
  | cons x rest ih =>
    obtain ⟨line, n⟩ := x
    obtain ⟨first, after, more, hstep, hrest, rfl⟩ := feed_cons_eq_ok h
    obtain ⟨cut, hreads, rfl⟩ := reads_of_settle hs hstep
    obtain ⟨hn, hnodup⟩ := List.nodup_cons.mp hnodup
    rw [visits_cons_of_ok rest hstep]
    intro v hv hhidden l hl hnumber
    have hlater : ∀ w ∈ visits after rest, w.number ∈ rest.map (·.2) := by
      intro w hw
      have : (w.line, w.number) ∈ rest := map_visits hrest ▸ List.mem_map.mpr ⟨w, hw, rfl⟩
      exact List.mem_map.mpr ⟨_, this, rfl⟩
    -- The visit and the given line both belong to the first line, or both to later ones: in the
    -- mixed cases the first number would occur again.
    rcases List.mem_cons.mp hv with rfl | hv
    · rcases List.mem_append.mp hl with hl | hl
      · rw [hreads.eq_empty hhidden] at hl
        obtain rfl : l = ⟨"", n⟩ := by simpa using hl
        rfl
      · have hlater := number_mem_of_feed hreads.isBetween hrest l hl
        rw [hnumber] at hlater
        exact (hn hlater).elim
    · rcases List.mem_append.mp hl with hl | hl
      · cases cut with
        | none => simp at hl
        | some text =>
          obtain rfl : l = ⟨text, n⟩ := by simpa using hl
          have hlater := hlater v hv
          rw [← hnumber] at hlater
          exact (hn hlater).elim
      · exact ih hreads.isBetween hrest hnodup v hv hhidden l hl hnumber

end DocExamples.Margin

namespace DocExamples.Transcript

open Text Transducer

/-! ### Sources of groups -/

/-- The source lines of all examples, in order. -/
def sourcesOf (groups : List Group) : List String :=
  groups.flatMap fun g => g.examples.flatMap (·.source)

/-- The prompts that the groups of a transcript take in. -/
def sourceLines (lines : List SourceLine) : List SourceLine :=
  (segments lines).flatMap fun segment =>
    (segment.dropWhile (!isOpening ·.text)).filter isPromptLine

theorem source_exampleOf (lines : List SourceLine) :
    (exampleOf lines).source = (lines.filter isPromptLine).map (Prompt.fragment ·.text) := by
  simp [exampleOf, List.map_map, Function.comp_def]

theorem sourcesOf_groupOf (identifier : Identifier) (segment : List SourceLine) :
    sourcesOf (groupOf identifier segment).toList =
      ((segment.dropWhile (!isOpening ·.text)).filter isPromptLine).map
        (Prompt.fragment ·.text) := by
  rw [groupOf]
  split
  · next h =>
    rw [h]
    rfl
  · next first rest h =>
    have hlines := flatten_cutExamples [first] rest
    rw [List.singleton_append] at hlines
    rw [h, ← hlines, List.filter_flatten, List.map_flatten]
    simp [sourcesOf, List.flatMap_def, List.map_map, Function.comp_def, source_exampleOf]

theorem sourcesOf_groupsOf (identifier : Identifier) (lines : List SourceLine) :
    sourcesOf (groupsOf identifier lines) =
      (sourceLines lines).map (Prompt.fragment ·.text) := by
  rw [groupsOf, sourceLines]
  induction segments lines with
  | nil => rfl
  | cons segment more ih =>
    rw [List.flatMap_cons, List.map_append, ← ih, ← sourcesOf_groupOf identifier segment]
    cases h : groupOf identifier segment with
    | none => simp [h, sourcesOf]
    | some g => simp [h, sourcesOf]

/-! ### Every opening prompt of a transcript is taken -/

theorem filter_isOpening_dropWhile (lines : List SourceLine) :
    (lines.dropWhile (!isOpening ·.text)).filter (isOpening ·.text) =
      lines.filter (isOpening ·.text) := by
  induction lines with
  | nil => rfl
  | cons line rest ih =>
    cases h : isOpening line.text with
    | true => simp [h]
    | false => simpa [h] using ih

theorem openings_sublist_sourceLines (lines : List SourceLine) :
    (lines.filter (isOpening ·.text)).Sublist (sourceLines lines) := by
  -- No prompt is a terminator, and so none is lost between the segments.
  have hsegments : lines.filter (isOpening ·.text) =
      (segments lines).flatMap (·.filter (isOpening ·.text)) := by
    rw [List.flatMap_def, ← List.filter_flatten, flatten_segments, List.filter_filter]
    refine List.filter_congr fun line _ => ?_
    cases h : isOpening line.text with
    | false => rfl
    | true =>
      have hprompt : isPromptLine line = true := by rw [isPromptLine, h, Bool.true_or]
      rw [not_terminator_of_isPromptLine hprompt]
      rfl
  rw [hsegments, sourceLines]
  refine List.Sublist.flatMap_right _ fun segment _ => ?_
  rw [← filter_isOpening_dropWhile]
  refine List.monotone_filter_right _ fun line hline => ?_
  rw [isPromptLine, hline, Bool.true_or]

theorem sourceLines_sublist (lines : List SourceLine) : (sourceLines lines).Sublist lines := by
  have hsegments : (sourceLines lines).Sublist (segments lines).flatten := by
    rw [sourceLines, ← List.flatMap_id]
    refine List.Sublist.flatMap_right _ fun segment _ => ?_
    exact List.filter_sublist.trans (List.dropWhile_sublist _)
  rw [flatten_segments] at hsegments
  exact hsegments.trans List.filter_sublist

/-! ### Documents -/

/-- The lines of a document with a plain opening prompt, without their white space. -/
def promptLines (doc : String) (line : Int) : List SourceLine :=
  ((Margin.number (line + 1) (documentLines doc)).filter fun (text, _) =>
    startsWith "iex>" (trimStart text)).map fun (text, n) => ⟨trimStart text, n⟩

/-- The lines of a document, each with the state of the reader of margins in front of it. -/
def documentVisits (doc : String) (line : Int) : List Margin.Visit :=
  Margin.visits .prose (Margin.number (line + 1) (documentLines doc))

/-- Some prompt of a document stands among output lines on a line no longer than the margin. -/
def HidesPrompt (doc : String) (line : Int) : Prop :=
  ∃ v ∈ documentVisits doc line, v.isPrompt = true ∧ v.isHidden = true

instance (doc : String) (line : Int) : Decidable (HidesPrompt doc line) :=
  inferInstanceAs (Decidable (∃ v ∈ _, _))

section Documents

variable {doc : String} {line : Int} {transcript : List SourceLine}

theorem promptLines_eq (h : Margin.normalize (documentLines doc) (line + 1) = .ok transcript) :
    promptLines doc line = ((documentVisits doc line).filter (·.isPrompt)).map (·.trimmed) := by
  obtain ⟨final, hfeed⟩ := Margin.exists_feed_of_normalize h
  rw [promptLines, ← Margin.map_visits hfeed, List.filter_map, List.map_map]
  rfl

/-- Every prompt that is not hidden is taken into a group. -/
theorem visible_sublist_sourceLines
    (h : Margin.normalize (documentLines doc) (line + 1) = .ok transcript) :
    (((documentVisits doc line).filter fun v => v.isPrompt && !v.isHidden).map (·.trimmed)).Sublist
      (sourceLines (transcript.map unnumbered)) := by
  obtain ⟨final, hfeed⟩ := Margin.exists_feed_of_normalize h
  have hvisible := (Margin.visible_sublist Margin.isBetween_prose hfeed).map unnumbered
  -- The prompts are plain: they have no numbers to drop, and the grammar takes them all.
  have hopening : ∀ l ∈ ((documentVisits doc line).filter
      fun v => v.isPrompt && !v.isHidden).map (·.trimmed), isOpening l.text = true := by
    intro l hl
    obtain ⟨v, hv, rfl⟩ := List.mem_map.mp hl
    exact (Bool.and_eq_true_iff.mp (List.mem_filter.mp hv).2).1
  have hplain := List.map_congr_left fun l hl =>
    unnumbered_of_plain (Prompt.isNumbered_of_startsWith (Or.inl (hopening l hl)))
  rw [documentVisits] at hplain hopening ⊢
  rw [hplain, List.map_id'] at hvisible
  have hkept := hvisible.filter (isOpening ·.text)
  rw [List.filter_eq_self.mpr hopening] at hkept
  exact hkept.trans (openings_sublist_sourceLines _)

/-- Nothing is taken into a group for a hidden prompt. -/
theorem not_mem_of_hidden
    (h : Margin.normalize (documentLines doc) (line + 1) = .ok transcript) {v : Margin.Visit}
    (hv : v ∈ documentVisits doc line) (hprompt : v.isPrompt = true) (hhidden : v.isHidden = true) :
    v.trimmed ∉ sourceLines (transcript.map unnumbered) := by
  obtain ⟨final, hfeed⟩ := Margin.exists_feed_of_normalize h
  intro hmem
  obtain ⟨l, hl, heq⟩ := List.mem_map.mp ((sourceLines_sublist _).subset hmem)
  have hempty := Margin.text_eq_empty_of_hidden Margin.isBetween_prose hfeed
    (Margin.nodup_number (line + 1) (documentLines doc)) v hv hhidden l hl
    (congrArg SourceLine.number heq)
  obtain ⟨text, n⟩ := l
  obtain rfl : text = "" := hempty
  have htext : "" = trimStart v.line := congrArg SourceLine.text heq
  simp only [Margin.Visit.isPrompt, ← htext] at hprompt
  cases hprompt

theorem filter_isPrompt_eq (h : ¬HidesPrompt doc line) :
    (documentVisits doc line).filter (·.isPrompt) =
      (documentVisits doc line).filter fun v => v.isPrompt && !v.isHidden := by
  refine List.filter_congr fun v hv => ?_
  cases hprompt : v.isPrompt with
  | false => rfl
  | true =>
    have hvisible : v.isHidden = false := by
      by_contra hhidden
      exact h ⟨v, hv, hprompt, Bool.not_eq_false _ ▸ hhidden⟩
    rw [hvisible]
    rfl

theorem promptLines_sublist_iff
    (h : Margin.normalize (documentLines doc) (line + 1) = .ok transcript) :
    (promptLines doc line).Sublist (sourceLines (transcript.map unnumbered)) ↔
      ¬HidesPrompt doc line := by
  rw [promptLines_eq h]
  constructor
  · rintro hsublist ⟨v, hv, hprompt, hhidden⟩
    have hmem : v.trimmed ∈ ((documentVisits doc line).filter (·.isPrompt)).map (·.trimmed) :=
      List.mem_map.mpr ⟨v, List.mem_filter.mpr ⟨hv, hprompt⟩, rfl⟩
    exact not_mem_of_hidden h hv hprompt hhidden (hsublist.subset hmem)
  · intro hno
    rw [filter_isPrompt_eq hno]
    exact visible_sublist_sourceLines h

end Documents

/-- **Only hidden prompts are lost.**  The sources of the groups of a document are taken from its
transcript.  They hold all opening prompts of the document, in order and by number, exactly if none
of them is hidden by a margin; and then they hold their fragments. -/
theorem prompts_sublist_iff {identifier : Identifier} {doc : String} {line : Int}
    {groups : List Group} (h : extract identifier doc line = .ok groups) :
    ∃ transcript, Margin.normalize (documentLines doc) (line + 1) = .ok transcript ∧
      sourcesOf groups =
        (sourceLines (transcript.map unnumbered)).map (Prompt.fragment ·.text) ∧
      ((promptLines doc line).Sublist (sourceLines (transcript.map unnumbered)) ↔
        ¬HidesPrompt doc line) ∧
      (¬HidesPrompt doc line →
        ((promptLines doc line).map (Prompt.fragment ·.text)).Sublist (sourcesOf groups)) := by
  obtain ⟨transcript, htranscript, rfl⟩ := groupsOf_of_extract h
  have hsources := sourcesOf_groupsOf identifier (transcript.map unnumbered)
  have hiff := promptLines_sublist_iff htranscript
  refine ⟨transcript, htranscript, hsources, hiff, fun hno => ?_⟩
  rw [hsources]
  exact (hiff.mpr hno).map _

theorem prompts_sublist_sources :
    extract .moduledoc "Sums:\n\n  iex> 1\n  1\n  iex(2)> 2\n  iex> 3\n  3" 0 =
        .ok [⟨3, .moduledoc, [⟨["1"], "1", "\niex> 1\n1"⟩,
          ⟨["2", "3"], "3", "\niex> 2\niex> 3\n3"⟩]⟩] ∧
      ["1", "3"].Sublist ["1", "2", "3"] := by
  have hextract : extract .moduledoc "Sums:\n\n  iex> 1\n  1\n  iex(2)> 2\n  iex> 3\n  3" 0 =
      .ok [⟨3, .moduledoc, [⟨["1"], "1", "\niex> 1\n1"⟩,
        ⟨["2", "3"], "3", "\niex> 2\niex> 3\n3"⟩]⟩] := by decide +kernel
  refine ⟨hextract, ?_⟩
  obtain ⟨_, -, -, -, hsublist⟩ := prompts_sublist_iff hextract
  exact hsublist (by decide +kernel)

/-- A prompt is lost: the text of its line is as short as the margin of the block it stands in. -/
theorem prompt_hidden :
    extract .moduledoc "          iex> 1\n          1\niex> 2\n2" 0 =
        .ok [⟨1, .moduledoc, [⟨["1"], "1", "\niex> 1\n1"⟩]⟩] ∧
      ¬((promptLines "          iex> 1\n          1\niex> 2\n2" 0).map
        (Prompt.fragment ·.text)).Sublist
          (sourcesOf [⟨1, .moduledoc, [⟨["1"], "1", "\niex> 1\n1"⟩]⟩]) := by
  constructor <;> decide +kernel

end DocExamples.Transcript
