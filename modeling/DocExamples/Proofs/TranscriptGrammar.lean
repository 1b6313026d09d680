import DocExamples.Transcript
import Mathlib.Data.List.Basic

/-!
# The grammar of transcripts

Terminators cut a transcript into segments.  A segment gives one group, which starts at its first
opening prompt; inside the group an opening prompt behind an output line starts the next example.
There is only one way to cut a group so (`cutExamples_eq_iff`), and a transcript can be read in two
parts that meet at a terminator (`groupsOf_append`).
-/

namespace DocExamples.Transcript

open Text

/-! ### Segments, examples and groups -/

/-- The line has a plain prompt. -/
def isPromptLine (line : SourceLine) : Bool := isOpening line.text || isContinuation line.text

/-- Among the lines of an example there is an output line. -/
def isAnswered (lines : List SourceLine) : Bool := lines.any (!isPromptLine ·)

/-- The lines of a group by example, where `current` holds the lines of the first example that are
known already. -/
def cutExamples (current : List SourceLine) : List SourceLine → List (List SourceLine)
  | [] => [current]
  | line :: rest =>
    if isOpening line.text && isAnswered current then current :: cutExamples [line] rest
    else cutExamples (current ++ [line]) rest

/-- The example that lines make: the prompts are its expression, the other lines its expected
result. -/
def exampleOf (lines : List SourceLine) : Example :=
  let prompts := (lines.filter isPromptLine).map (·.text)
  let expected := joinLines ((lines.filter (!isPromptLine ·)).map (·.text))
  { source := prompts.map Prompt.fragment
    expected := expected
    display := "\n" ++ joinLines prompts ++ "\n" ++ expected }

/-- The group of a segment: nothing counts in front of the first opening prompt. -/
def groupOf (identifier : Identifier) (segment : List SourceLine) : Option Group :=
  match segment.dropWhile (!isOpening ·.text) with
  | [] => none
  | first :: rest => some ⟨first.number, identifier, (cutExamples [first] rest).map exampleOf⟩

/-- The maximal runs of lines without a terminator. -/
def segments (lines : List SourceLine) : List (List SourceLine) :=
  lines.splitOnP (isTerminator ·.text)

/-- The groups of a transcript whose prompts are plain. -/
def groupsOf (identifier : Identifier) (lines : List SourceLine) : List Group :=
  (segments lines).filterMap (groupOf identifier)

/-! ### Prompts are no terminators -/

theorem not_terminator_of_isPromptLine {line : SourceLine} (h : isPromptLine line = true) :
    isTerminator line.text = false := by
  simp only [isPromptLine, isOpening, isContinuation, startsWith, Bool.or_eq_true,
    List.isPrefixOf_iff_prefix] at h
  rcases h with ⟨rest, h⟩ | ⟨rest, h⟩
  · simp [isTerminator, isFence, startsWith, ← h, List.isPrefixOf, ← String.toList_eq_nil_iff]
  · simp [isTerminator, isFence, startsWith, ← h, List.isPrefixOf, ← String.toList_eq_nil_iff]

/-! ### Where a group is cut into examples -/

/-- The lines of a group's examples: each example starts at an opening prompt and has no further
one behind an output line, and only the last may lack an output line. -/
structure IsCut (examples : List (List SourceLine)) : Prop where
  opens : ∀ lines ∈ examples, ∃ first rest, lines = first :: rest ∧ isOpening first.text = true
  ordered : ∀ lines ∈ examples,
    lines.Pairwise fun a b => isPromptLine a = false → isOpening b.text = false
  answered : ∀ lines ∈ examples.dropLast, isAnswered lines = true

theorem flatten_cutExamples (current lines : List SourceLine) :
    (cutExamples current lines).flatten = current ++ lines := by
  induction lines generalizing current with
  | nil => simp [cutExamples]
  | cons line rest ih =>
    simp only [cutExamples]
    split
    · rw [List.flatten_cons, ih, List.singleton_append]
    · rw [ih, List.append_assoc, List.singleton_append]

theorem cutExamples_ne_nil (current lines : List SourceLine) : cutExamples current lines ≠ [] := by
  induction lines generalizing current with
  | nil => simp [cutExamples]
  | cons line rest ih =>
    simp only [cutExamples]
    split
    · simp
    · exact ih _

theorem isCut_cutExamples {current : List SourceLine} (lines : List SourceLine)
    (hopens : ∃ first rest, current = first :: rest ∧ isOpening first.text = true)
    (hordered : current.Pairwise fun a b => isPromptLine a = false → isOpening b.text = false) :
    IsCut (cutExamples current lines) := by
  induction lines generalizing current with
  | nil =>
    refine ⟨?_, ?_, ?_⟩
    · simpa [cutExamples] using hopens
    · simpa [cutExamples] using hordered
    · simp [cutExamples]
  | cons line rest ih =>
    simp only [cutExamples]
    split
    · next hnext =>
      obtain ⟨hopening, hanswered⟩ := Bool.and_eq_true_iff.mp hnext
      have hrest : IsCut (cutExamples [line] rest) :=
        ih ⟨line, [], rfl, hopening⟩ (List.pairwise_singleton _ _)
      refine ⟨?_, ?_, ?_⟩
      · exact List.forall_mem_cons.mpr ⟨hopens, hrest.opens⟩
      · exact List.forall_mem_cons.mpr ⟨hordered, hrest.ordered⟩
      · rw [List.dropLast_cons_of_ne_nil (cutExamples_ne_nil _ _)]
        exact List.forall_mem_cons.mpr ⟨hanswered, hrest.answered⟩
    · next hnext =>
      refine ih ?_ ?_
      · obtain ⟨first, more, rfl, hfirst⟩ := hopens
        exact ⟨first, more ++ [line], rfl, hfirst⟩
      · refine List.pairwise_append.mpr ⟨hordered, List.pairwise_singleton _ _, ?_⟩
        intro a ha b hb houtput
        rw [List.mem_singleton.mp hb]
        by_contra hopening
        refine hnext (Bool.and_eq_true_iff.mpr ⟨Bool.not_eq_false _ ▸ hopening, ?_⟩)
        exact List.any_eq_true.mpr ⟨a, ha, by simp [houtput]⟩

theorem IsCut.of_cons {lines : List SourceLine} {more : List (List SourceLine)}
    (h : IsCut (lines :: more)) : IsCut more := by
  refine ⟨fun l hl => h.opens l (by simp [hl]), fun l hl => h.ordered l (by simp [hl]), ?_⟩
  intro l hl
  cases more with
  | nil => simp at hl
  | cons next more => exact h.answered l (by simp [List.dropLast_cons_cons, hl])

/-- The lines of one example go through, as no opening prompt stands behind an output line. -/
theorem cutExamples_of_ordered {current lines : List SourceLine} (rest : List SourceLine)
    (hordered : (current ++ lines).Pairwise fun a b =>
      isPromptLine a = false → isOpening b.text = false) :
    cutExamples current (lines ++ rest) = cutExamples (current ++ lines) rest := by
  induction lines generalizing current with
  | nil => simp
  | cons line more ih =>
    have hsame : (isOpening line.text && isAnswered current) = false := by
      cases hanswered : isAnswered current with
      | false => rw [Bool.and_false]
      | true =>
        obtain ⟨a, ha, houtput⟩ := List.any_eq_true.mp hanswered
        have := (List.pairwise_append.mp hordered).2.2 a ha line (by simp) (by simpa using houtput)
        rw [this, Bool.false_and]
    simp only [List.cons_append, cutExamples, hsame, Bool.false_eq_true, if_false]
    rw [ih (by simpa using hordered), List.append_assoc, List.singleton_append]

/-- The lines of a group can be cut into examples in one way only, and the grammar finds it. -/
theorem cutExamples_of_isCut {current : List SourceLine} {more : List (List SourceLine)}
    (h : IsCut (current :: more)) :
    cutExamples current more.flatten = current :: more := by
  induction more generalizing current with
  | nil => simp [cutExamples]
  | cons next more ih =>
    obtain ⟨first, rest, rfl, hfirst⟩ := h.opens next (by simp)
    have hanswered := h.answered current (by simp [List.dropLast_cons_cons])
    have hordered := h.ordered (first :: rest) (by simp)
    rw [List.flatten_cons, List.cons_append, cutExamples, hfirst, hanswered, Bool.and_self,
      if_pos rfl, cutExamples_of_ordered more.flatten (by simpa using hordered)]
    exact congrArg (current :: ·) (ih h.of_cons)

theorem cutExamples_eq_iff {first : SourceLine} (rest : List SourceLine)
    (examples : List (List SourceLine)) (hfirst : isOpening first.text = true) :
    cutExamples [first] rest = examples ↔ IsCut examples ∧ examples.flatten = first :: rest := by
  constructor
  · rintro rfl
    refine ⟨isCut_cutExamples rest ⟨first, [], rfl, hfirst⟩ (List.pairwise_singleton _ _), ?_⟩
    rw [flatten_cutExamples, List.singleton_append]
  · rintro ⟨hcut, hflatten⟩
    cases examples with
    | nil => simp at hflatten
    | cons current more =>
      obtain ⟨opening, lines, rfl, -⟩ := hcut.opens current (by simp)
      rw [List.flatten_cons, List.cons_append, List.cons.injEq] at hflatten
      obtain ⟨rfl, rfl⟩ := hflatten
      have hordered := hcut.ordered (opening :: lines) (by simp)
      rw [cutExamples_of_ordered more.flatten (by simpa using hordered)]
      exact cutExamples_of_isCut hcut

/-! ### The grammar line by line -/

/-- The groups of the lines that follow inside a group: `finished` and `current` hold the lines of
its examples so far. -/
def groupsInside (identifier : Identifier) (start : Int) (finished : List (List SourceLine))
    (current lines : List SourceLine) : List Group :=
  match segments lines with
  | [] => []
  | segment :: more =>
    ⟨start, identifier, (finished ++ cutExamples current segment).map exampleOf⟩ ::
      more.filterMap (groupOf identifier)

theorem segments_cons_of_terminator {line : SourceLine} (rest : List SourceLine)
    (h : isTerminator line.text = true) : segments (line :: rest) = [] :: segments rest := by
  simp only [segments, List.splitOnP_cons_eq_if_modifyHead, h, if_true]

theorem segments_cons {line : SourceLine} (rest : List SourceLine)
    (h : isTerminator line.text = false) :
    ∃ segment more, segments rest = segment :: more ∧
      segments (line :: rest) = (line :: segment) :: more := by
  obtain ⟨segment, more, hrest⟩ :=
    List.exists_cons_of_ne_nil (List.splitOnP_ne_nil (isTerminator ·.text) rest)
  refine ⟨segment, more, hrest, ?_⟩
  simp only [segments, List.splitOnP_cons_eq_if_modifyHead, h, Bool.false_eq_true, if_false, hrest,
    List.modifyHead_cons]

/-- Only the terminators are lost between the segments. -/
theorem flatten_segments (lines : List SourceLine) :
    (segments lines).flatten = lines.filter (!isTerminator ·.text) := by
  induction lines with
  | nil => simp [segments]
  | cons line rest ih =>
    cases hline : isTerminator line.text with
    | true => simp [segments_cons_of_terminator rest hline, hline, ih]
    | false =>
      obtain ⟨segment, more, hrest, hcons⟩ := segments_cons rest hline
      rw [hrest] at ih
      simp [hcons, hline, ← ih]

section Grammar

variable (identifier : Identifier)

theorem groupsOf_nil : groupsOf identifier [] = [] := by
  simp [groupsOf, segments, groupOf]

/-- A transcript can be read in two parts, cut at a terminator. -/
theorem groupsOf_append {line : SourceLine} (before after : List SourceLine)
    (h : isTerminator line.text = true) :
    groupsOf identifier (before ++ line :: after) =
      groupsOf identifier before ++ groupsOf identifier after := by
  rw [groupsOf, segments, List.splitOnP_append_cons before after h, List.filterMap_append]
  rfl

theorem groupsOf_cons_opening {line : SourceLine} (rest : List SourceLine)
    (h : isOpening line.text = true) :
    groupsOf identifier (line :: rest) = groupsInside identifier line.number [] [line] rest := by
  have hline : isTerminator line.text = false :=
    not_terminator_of_isPromptLine (by simp [isPromptLine, h])
  obtain ⟨segment, more, hrest, hcons⟩ := segments_cons rest hline
  simp [groupsOf, groupsInside, hrest, hcons, groupOf, h]

theorem groupsOf_cons_other {line : SourceLine} (rest : List SourceLine)
    (h : isOpening line.text = false) :
    groupsOf identifier (line :: rest) = groupsOf identifier rest := by
  cases hline : isTerminator line.text with
  | true => simp [groupsOf, segments_cons_of_terminator rest hline, groupOf, List.filterMap_cons]
  | false =>
    obtain ⟨segment, more, hrest, hcons⟩ := segments_cons rest hline
    simp [groupsOf, hrest, hcons, groupOf, h, List.filterMap_cons]

variable (start : Int) (finished : List (List SourceLine)) (current : List SourceLine)

theorem groupsInside_nil :
    groupsInside identifier start finished current [] =
      [⟨start, identifier, (finished ++ [current]).map exampleOf⟩] := by
  simp [groupsInside, segments, cutExamples]

theorem groupsInside_terminator {line : SourceLine} (rest : List SourceLine)
    (h : isTerminator line.text = true) :
    groupsInside identifier start finished current (line :: rest) =
      ⟨start, identifier, (finished ++ [current]).map exampleOf⟩ :: groupsOf identifier rest := by
  simp [groupsInside, segments_cons_of_terminator rest h, groupsOf, cutExamples]

theorem groupsInside_next {line : SourceLine} (rest : List SourceLine)
    (hopening : isOpening line.text = true) (hanswered : isAnswered current = true) :
    groupsInside identifier start finished current (line :: rest) =
      groupsInside identifier start (finished ++ [current]) [line] rest := by
  have hline : isTerminator line.text = false :=
    not_terminator_of_isPromptLine (by simp [isPromptLine, hopening])
  obtain ⟨segment, more, hrest, hcons⟩ := segments_cons rest hline
  simp [groupsInside, hrest, hcons, cutExamples, hopening, hanswered]

theorem groupsInside_same {line : SourceLine} (rest : List SourceLine)
    (hline : isTerminator line.text = false)
    (hsame : (isOpening line.text && isAnswered current) = false) :
    groupsInside identifier start finished current (line :: rest) =
      groupsInside identifier start finished (current ++ [line]) rest := by
  obtain ⟨segment, more, hrest, hcons⟩ := segments_cons rest hline
  simp only [groupsInside, hrest, hcons, cutExamples, hsame, Bool.false_eq_true, if_false]

end Grammar

end DocExamples.Transcript
