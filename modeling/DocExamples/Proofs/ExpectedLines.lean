import DocExamples.Proofs.DocumentLines
import DocExamples.Proofs.TranscriptGrammar
import DocExamples.Run
import Mathlib.Algebra.GroupWithZero.Nat

/-!
# The lines of an expected result

An expected result is made of document lines, so line feeds divide it (`splitAt_joinLines`).  A run
cuts it at every line boundary instead, and counts more lines where another boundary stands inside
of it.  The main statement says how many more (`height_eq`).
-/

namespace DocExamples.Text

/-! ### Pieces between separators -/

theorem splitAt_cons_self (sep : Char) (rest : List Char) :
    splitAt sep (sep :: rest) = [] :: splitAt sep rest := by
  rw [splitAt, List.foldr_cons, if_pos rfl, ← splitAt]

theorem splitAt_cons {sep c : Char} (rest : List Char) (h : c ≠ sep) :
    ∃ piece more, splitAt sep rest = piece :: more ∧
      splitAt sep (c :: rest) = (c :: piece) :: more := by
  obtain ⟨piece, more, hrest⟩ := List.exists_cons_of_ne_nil (splitAt_ne_nil sep rest)
  refine ⟨piece, more, hrest, ?_⟩
  rw [splitAt, List.foldr_cons, if_neg h, ← splitAt, hrest]

theorem not_mem_of_mem_splitAt {sep : Char} {cs piece : List Char} (h : piece ∈ splitAt sep cs) :
    sep ∉ piece := by
  induction cs generalizing piece with
  | nil =>
    rw [List.mem_singleton.mp h]
    exact List.not_mem_nil
  | cons c rest ih =>
    by_cases hc : c = sep
    · subst hc
      rw [splitAt_cons_self] at h
      rcases List.mem_cons.mp h with rfl | h
      · exact List.not_mem_nil
      · exact ih h
    · obtain ⟨first, more, hrest, hcons⟩ := splitAt_cons rest hc
      rw [hrest] at ih
      rw [hcons] at h
      rcases List.mem_cons.mp h with rfl | h
      · intro hmem
        rcases List.mem_cons.mp hmem with rfl | hmem
        · exact hc rfl
        · exact ih List.mem_cons_self hmem
      · exact ih (List.mem_cons_of_mem first h)

theorem length_splitAt (sep : Char) (cs : List Char) :
    (splitAt sep cs).length = cs.count sep + 1 := by
  induction cs with
  | nil => rfl
  | cons c rest ih =>
    by_cases hc : c = sep
    · subst hc
      rw [splitAt_cons_self, List.length_cons, ih, List.count_cons_self]
    · obtain ⟨piece, more, hrest, hcons⟩ := splitAt_cons rest hc
      rw [List.count_cons_of_ne hc, ← ih, hcons, hrest, List.length_cons, List.length_cons]

theorem not_mem_of_mem_documentLines {doc line : String} (h : line ∈ documentLines doc) :
    '\n' ∉ line.toList := by
  obtain ⟨piece, hpiece, rfl⟩ := List.mem_map.mp h
  rw [String.toList_ofList]
  exact not_mem_of_mem_splitAt hpiece

/-- Lines are read back from the text that they make. -/
theorem splitAt_joinLines {lines : List String} (hne : lines ≠ [])
    (h : ∀ line ∈ lines, '\n' ∉ line.toList) :
    (splitAt '\n' (joinLines lines).toList).map String.ofList = lines := by
  have hpieces : ∀ piece ∈ lines.map String.toList, '\n' ∉ piece := by
    intro piece hpiece
    obtain ⟨line, hline, rfl⟩ := List.mem_map.mp hpiece
    exact h line hline
  have hsplit := List.splitOn_intercalate '\n' hpieces (by simpa using hne)
  have hjoin : (joinLines lines).toList = ['\n'].intercalate (lines.map String.toList) := by
    rw [joinLines, String.toList_intercalate]
    rfl
  rw [splitAt_eq_splitOnP, hjoin]
  rw [List.splitOn_eq_splitOnP] at hsplit
  have hp : (fun c => decide (c = '\n')) = (· == '\n') := by
    funext c
    rfl
  rw [hp, hsplit, List.map_map]
  simp

theorem joinLines_eq_empty_iff {lines : List String} (h : ∀ line ∈ lines, line ≠ "") :
    joinLines lines = "" ↔ lines = [] := by
  constructor
  · intro hjoin
    match lines with
    | [] => rfl
    | [line] =>
      have hline : line = "" := by simpa [joinLines] using hjoin
      exact (h line (by simp) hline).elim
    | line :: next :: more =>
      have hchars := congrArg String.toList hjoin
      rw [joinLines, String.toList_intercalate] at hchars
      simp at hchars
  · rintro rfl
    rfl

/-! ### Two counts of lines -/

/-- A boundary between two characters that is no line feed. -/
def breaksBetween (c next : Char) : Bool :=
  isLineBoundary c && c ≠ '\n' && !decide (c = '\r' ∧ next = '\n')

/-- How many line boundaries other than line feeds stand inside of a text.  A carriage return in
front of a line feed belongs to it, and a boundary at the very end stands inside of nothing. -/
def innerBreaks (cs : List Char) : Nat :=
  (cs.zip cs.tail).countP fun (c, next) => breaksBetween c next

theorem innerBreaks_cons (c next : Char) (rest : List Char) :
    innerBreaks (c :: next :: rest) =
      innerBreaks (next :: rest) + if breaksBetween c next then 1 else 0 := by
  rw [innerBreaks, List.tail_cons, List.zip_cons_cons, List.countP_cons]
  rfl

theorem length_boundaryLinesFrom (line : List Char) {cs : List Char} (hne : cs ≠ [])
    (hlast : cs.getLast? ≠ some '\n') :
    (boundaryLinesFrom line cs).length = cs.count '\n' + 1 + innerBreaks cs := by
  fun_induction boundaryLinesFrom line cs with
  | case1 | case2 => exact (hne rfl).elim
  | case3 line rest ih =>
    cases rest with
    | nil => exact (hlast rfl).elim
    | cons next more =>
      -- Neither half of the pair stands for a boundary of its own.
      have hpair : breaksBetween '\r' '\n' = false := rfl
      have hfeed : breaksBetween '\n' next = false := rfl
      rw [List.length_cons, ih (by simp) (by simpa using hlast), innerBreaks_cons, innerBreaks_cons,
        hpair, hfeed, List.count_cons_of_ne (show '\r' ≠ '\n' by decide), List.count_cons_self]
      simp only [Bool.false_eq_true, if_false]
      omega
  | case4 line c rest hno hboundary ih =>
    cases rest with
    | nil =>
      have hc : c ≠ '\n' := by simpa using hlast
      rw [List.count_cons_of_ne hc]
      rfl
    | cons next more =>
      have hcrlf : decide (c = '\r' ∧ next = '\n') = false := by
        rw [decide_eq_false_iff_not]
        rintro ⟨rfl, rfl⟩
        exact hno more rfl rfl
      rw [List.length_cons, ih (by simp) (by simpa using hlast), innerBreaks_cons]
      by_cases hc : c = '\n'
      · subst hc
        have hfeed : breaksBetween '\n' next = false := rfl
        rw [List.count_cons_self, hfeed]
        simp only [Bool.false_eq_true, if_false]
        omega
      · have hbreak : breaksBetween c next = true := by
          simp [breaksBetween, hboundary, hc, hcrlf]
        rw [List.count_cons_of_ne hc, hbreak, if_pos rfl]
        omega
  | case5 line c rest hno hinside ih =>
    have hc : c ≠ '\n' := by
      rintro rfl
      exact hinside rfl
    cases rest with
    | nil =>
      rw [List.count_cons_of_ne hc]
      rfl
    | cons next more =>
      have hbreak : breaksBetween c next = false := by
        rw [breaksBetween, Bool.eq_false_iff.mpr hinside]
        rfl
      rw [ih (by simp) (by simpa using hlast), innerBreaks_cons, hbreak,
        List.count_cons_of_ne hc]
      rfl

end DocExamples.Text

namespace DocExamples.Example

open Text

/-- The lines of the expected result. -/
def answers (e : Example) : List String :=
  if e.expected = "" then [] else (splitAt '\n' e.expected.toList).map String.ofList

/-- How many lines of a document the example is made of. -/
def size (e : Example) : Nat :=
  e.source.length + if e.expected = "" then 0 else e.expected.toList.count '\n' + 1

theorem size_eq (e : Example) : e.size = e.source.length + e.answers.length := by
  rw [size, answers]
  split
  · rfl
  · rw [List.length_map, length_splitAt]

/-- A run counts as many lines too many as there are other line boundaries inside of the expected
result. -/
theorem height_eq {e : Example} (h : ∀ line ∈ e.answers, line ≠ "") :
    e.height = e.size + innerBreaks e.expected.toList := by
  rw [height, size]
  by_cases hempty : e.expected = ""
  · rw [if_pos hempty, hempty]
    rfl
  · have hne : e.expected.toList ≠ [] := by
      rw [ne_eq, String.toList_eq_nil_iff]
      exact hempty
    -- A line feed at the end would leave an empty last line.
    have hlast : e.expected.toList.getLast? ≠ some '\n' := by
      intro hend
      obtain ⟨front, hfront⟩ := List.getLast?_eq_some_iff.mp hend
      refine h "" ?_ rfl
      rw [answers, if_neg hempty, hfront, splitAt_append, List.map_append]
      exact List.mem_append_right _ List.mem_cons_self
    rw [if_neg hempty, boundaryLines, List.length_map, length_boundaryLinesFrom [] hne hlast]
    omega

end DocExamples.Example

namespace DocExamples.Group

/-- How many lines of a document the group is made of. -/
def size (g : Group) : Nat := (g.examples.map (·.size)).sum

end DocExamples.Group

namespace DocExamples.Transcript

open Text

theorem ne_empty_of_not_terminator {s : String} (h : isTerminator s = false) : s ≠ "" := by
  rintro rfl
  cases h

/-- Lines that a group can hold are read back from the example that they make. -/
theorem answers_exampleOf {lines : List SourceLine}
    (hlines : ∀ l ∈ lines, isTerminator l.text = false)
    (hfeeds : ∀ l ∈ lines, '\n' ∉ l.text.toList) :
    (exampleOf lines).answers = (lines.filter (!isPromptLine ·)).map (·.text) := by
  have hmem : ∀ s ∈ (lines.filter (!isPromptLine ·)).map (·.text),
      s ≠ "" ∧ '\n' ∉ s.toList := by
    intro s hs
    obtain ⟨l, hl, rfl⟩ := List.mem_map.mp hs
    have hl := (List.mem_filter.mp hl).1
    exact ⟨ne_empty_of_not_terminator (hlines l hl), hfeeds l hl⟩
  change (if joinLines ((lines.filter (!isPromptLine ·)).map (·.text)) = "" then _ else _) = _
  by_cases hnil : (lines.filter (!isPromptLine ·)).map (·.text) = []
  · rw [hnil]
    exact if_pos rfl
  · rw [if_neg fun hempty => hnil ((joinLines_eq_empty_iff fun s hs => (hmem s hs).1).mp hempty)]
    exact splitAt_joinLines hnil fun s hs => (hmem s hs).2

theorem size_exampleOf {lines : List SourceLine}
    (hlines : ∀ l ∈ lines, isTerminator l.text = false)
    (hfeeds : ∀ l ∈ lines, '\n' ∉ l.text.toList) : (exampleOf lines).size = lines.length := by
  have hsource : (exampleOf lines).source.length = (lines.filter isPromptLine).length := by
    rw [exampleOf, List.length_map, List.length_map]
  rw [Example.size_eq, answers_exampleOf hlines hfeeds, hsource, List.length_map,
    ← List.length_eq_length_filter_add]

end DocExamples.Transcript
