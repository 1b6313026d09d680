import DocExamples.Margin
import Mathlib.Data.List.Basic
import Mathlib.Data.List.TakeWhile

/-!
# What the reader of margins does with a line

A line is looked at once or twice, and then it has been read.  The equations below give the result
for each state and each kind of line, and `Reads` is their common inversion.  From it follow facts
on whole texts: between two lines the reader never stands in front of a prompt
(`isBetween_of_feed`), what it has given out ends at an empty line as soon as it stands outside of a
block (`endsBlank_of_feed`), and two empty lines bring it there from anywhere (`feed_gap`).
-/

namespace DocExamples.Margin

open Text Transducer

/-! ### One line -/

section Lines

variable {line : String} (margin : Nat) (n : Int)

theorem cutExactly_of_eq (h : trimStart line = "" ∨ trimStart line = dropChars margin line) :
    cutExactly margin n line = .ok (dropChars margin line) := by
  rw [cutExactly]
  exact if_neg fun hno => h.elim hno.1 hno.2

theorem eq_of_cutExactly {cut : String} (h : cutExactly margin n line = .ok cut) :
    cut = dropChars margin line ∧ (trimStart line = "" ∨ trimStart line = cut) := by
  simp only [cutExactly] at h
  split at h
  · cases h
  · next hno =>
    cases h
    exact ⟨rfl, by by_contra hne; exact hno (not_or.mp hne)⟩

theorem settle_prompt :
    reader.settle (.prompt margin) (line, n) =
      (cutExactly margin n line).map fun cut => ([⟨cut, n⟩], .afterPrompt margin) := by
  cases hcut : cutExactly margin n line with
  | error e => exact Rereader.settle_of_error (by simp only [reader, turn, hcut]; rfl)
  | ok cut => exact Rereader.settle_of_taken (by simp only [reader, turn, hcut]; rfl)

theorem settle_prose_of_opens (h : Prompt.opens (trimStart line) = true) :
    reader.settle .prose (line, n) =
      .ok ([⟨trimStart line, n⟩], .afterPrompt (leadingBlanks line)) := by
  have hagain : reader.turn .prose (line, n) =
      .ok (.again (.prompt (leadingBlanks line)) (line, n)) := by
    simp only [reader, turn, h, if_true]
  have hcut : cutExactly (leadingBlanks line) n line = .ok (trimStart line) := by
    rw [cutExactly_of_eq _ _ (Or.inr (dropChars_leadingBlanks line).symm), dropChars_leadingBlanks]
  rw [Rereader.settle_of_again hagain, settle_prompt, hcut]
  rfl

theorem settle_prose_of_text (h : Prompt.opens (trimStart line) = false) :
    reader.settle .prose (line, n) = .ok ([], .prose) :=
  Rereader.settle_of_taken (by simp only [reader, turn, h, Bool.false_eq_true, if_false])

theorem settle_afterPrompt :
    reader.settle (.afterPrompt margin) (line, n) =
      (cutExactly margin n line).map fun cut =>
        ([⟨cut, n⟩], if Prompt.isPrompt cut then .afterPrompt margin else .output margin) := by
  cases hcut : cutExactly margin n line with
  | error e => exact Rereader.settle_of_error (by simp only [reader, turn, hcut]; rfl)
  | ok cut => exact Rereader.settle_of_taken (by simp only [reader, turn, hcut]; rfl)

theorem settle_output_of_empty (h : dropChars margin line = "") :
    reader.settle (.output margin) (line, n) = .ok ([⟨"", n⟩], .prose) :=
  Rereader.settle_of_taken (by simp only [reader, turn, h, if_true])

theorem settle_output_of_opens (h : dropChars margin line ≠ "")
    (hopens : Prompt.opens (trimStart line) = true) :
    reader.settle (.output margin) (line, n) =
      (cutExactly margin n line).map fun cut => ([⟨cut, n⟩], .afterPrompt margin) := by
  have hagain : reader.turn (.output margin) (line, n) =
      .ok (.again (.prompt margin) (line, n)) := by
    simp only [reader, turn, h, hopens, if_true, if_false]
  rw [Rereader.settle_of_again hagain, settle_prompt]

theorem settle_output_of_text (h : dropChars margin line ≠ "")
    (hopens : Prompt.opens (trimStart line) = false) :
    reader.settle (.output margin) (line, n) =
      .ok ([⟨dropChars margin line, n⟩], .output margin) :=
  Rereader.settle_of_taken (by
    simp only [reader, turn, h, hopens, Bool.false_eq_true, if_false])

end Lines

/-! ### Everything that can happen to a line -/

/-- How a line can be read: what it is given out as, if it is, and where the reader stands behind
it. -/
inductive Reads : State → String → Option String → State → Prop where
  | prose {line : String} (h : Prompt.opens (trimStart line) = false) :
      Reads .prose line none .prose
  | opening {line : String} (h : Prompt.opens (trimStart line) = true) :
      Reads .prose line (some (trimStart line)) (.afterPrompt (leadingBlanks line))
  | behindPrompt {line : String} {margin : Nat}
      (h : trimStart line = "" ∨ trimStart line = dropChars margin line) :
      Reads (.afterPrompt margin) line (some (dropChars margin line))
        (if Prompt.isPrompt (dropChars margin line) then .afterPrompt margin else .output margin)
  | blank {line : String} {margin : Nat} (h : dropChars margin line = "") :
      Reads (.output margin) line (some "") .prose
  | nextPrompt {line : String} {margin : Nat} (h : dropChars margin line ≠ "")
      (hopens : Prompt.opens (trimStart line) = true)
      (hcut : trimStart line = dropChars margin line) :
      Reads (.output margin) line (some (trimStart line)) (.afterPrompt margin)
  | output {line : String} {margin : Nat} (h : dropChars margin line ≠ "")
      (hopens : Prompt.opens (trimStart line) = false) :
      Reads (.output margin) line (some (dropChars margin line)) (.output margin)

/-- The reader does not stand in front of a prompt that it has found already. -/
def State.IsBetween (s : State) : Prop := ∀ margin, s ≠ .prompt margin

theorem isBetween_prose : State.prose.IsBetween := fun _ => by simp

theorem isBetween_output (margin : Nat) : (State.output margin).IsBetween := fun _ => by simp

theorem ne_empty_of_opens {s : String} (h : Prompt.opens s = true) : s ≠ "" := by
  rintro rfl
  simp [Prompt.opens, startsWith] at h

theorem Reads.isBetween {s s' : State} {line : String} {cut : Option String}
    (h : Reads s line cut s') : s'.IsBetween := by
  intro margin
  cases h with
  | behindPrompt => split <;> simp
  | _ => simp

theorem reads_of_settle {s s' : State} (hs : s.IsBetween) {line : String} {n : Int}
    {out : List SourceLine} (h : reader.settle s (line, n) = .ok (out, s')) :
    ∃ cut, Reads s line cut s' ∧ out = (cut.map (⟨·, n⟩)).toList := by
  cases s with
  | prompt margin => exact (hs margin rfl).elim
  | prose =>
    cases hopens : Prompt.opens (trimStart line) with
    | true =>
      rw [settle_prose_of_opens n hopens] at h
      cases h
      exact ⟨_, .opening hopens, rfl⟩
    | false =>
      rw [settle_prose_of_text n hopens] at h
      cases h
      exact ⟨_, .prose hopens, rfl⟩
  | afterPrompt margin =>
    rw [settle_afterPrompt] at h
    cases hcut : cutExactly margin n line with
    | error e =>
      rw [hcut] at h
      cases h
    | ok cut =>
      obtain ⟨rfl, hline⟩ := eq_of_cutExactly margin n hcut
      rw [hcut] at h
      cases h
      exact ⟨_, .behindPrompt hline, rfl⟩
  | output margin =>
    by_cases hempty : dropChars margin line = ""
    · rw [settle_output_of_empty margin n hempty] at h
      cases h
      exact ⟨_, .blank hempty, rfl⟩
    · cases hopens : Prompt.opens (trimStart line) with
      | false =>
        rw [settle_output_of_text margin n hempty hopens] at h
        cases h
        exact ⟨_, .output hempty hopens, rfl⟩
      | true =>
        rw [settle_output_of_opens margin n hempty hopens] at h
        cases hcut : cutExactly margin n line with
        | error e =>
          rw [hcut] at h
          cases h
        | ok cut =>
          obtain ⟨rfl, hline⟩ := eq_of_cutExactly margin n hcut
          rw [hcut] at h
          cases h
          have hline := hline.resolve_left (ne_empty_of_opens hopens)
          refine ⟨some (trimStart line), .nextPrompt hempty hopens hline, ?_⟩
          rw [hline]
          rfl

/-! ### Blank lines -/

theorem trimStart_eq_empty_iff (s : String) :
    trimStart s = "" ↔ ∀ c ∈ s.toList, isBlank c = true := by
  rw [← List.dropWhile_eq_nil_iff, ← toList_trimStart, String.toList_eq_nil_iff]

theorem startsWith_of_blank {lead s : String} (hlead : lead.toList.all isBlank = false)
    (h : trimStart s = "") : startsWith lead s = false := by
  by_contra hstarts
  have hfront : lead.toList <+: s.toList :=
    List.isPrefixOf_iff_prefix.mp (Bool.not_eq_false _ ▸ hstarts)
  have hblank := (trimStart_eq_empty_iff s).mp h
  have hall : lead.toList.all isBlank = true :=
    List.all_eq_true.mpr fun c hc => hblank c (hfront.subset hc)
  rw [hall] at hlead
  cases hlead

theorem trimStart_dropChars_of_blank {s : String} (n : Nat) (h : trimStart s = "") :
    trimStart (dropChars n s) = "" := by
  have hblank := (trimStart_eq_empty_iff s).mp h
  rw [trimStart_eq_empty_iff, toList_dropChars]
  exact fun c hc => hblank c (List.mem_of_mem_drop hc)

theorem not_isPrompt_of_blank {s : String} (h : trimStart s = "") : Prompt.isPrompt s = false := by
  have hopening : startsWith "iex>" s = false := startsWith_of_blank rfl h
  have hnumbered : startsWith "iex(" s = false := startsWith_of_blank rfl h
  have hcontinuation : startsWith "...>" s = false := startsWith_of_blank rfl h
  have hmore : startsWith "...(" s = false := startsWith_of_blank rfl h
  rw [Prompt.isPrompt, Prompt.opens, hopening, hnumbered, hcontinuation, hmore]
  rfl

/-- White space is never out of place: what is left of it behind the margin is given out. -/
theorem settle_blank {s : State} (hs : s.IsBetween) {line : String} (h : trimStart line = "")
    (n : Int) :
    reader.settle s (line, n) = .ok (match s with
      | .prose => ([], .prose)
      | .prompt margin => ([⟨dropChars margin line, n⟩], .afterPrompt margin)
      | .afterPrompt margin => ([⟨dropChars margin line, n⟩], .output margin)
      | .output margin => ([⟨dropChars margin line, n⟩],
          if dropChars margin line = "" then .prose else .output margin)) := by
  have hopens : Prompt.opens (trimStart line) = false := by rw [h]; rfl
  cases s with
  | prose => exact settle_prose_of_text n hopens
  | prompt margin => exact (hs margin rfl).elim
  | afterPrompt margin =>
    have hcut := not_isPrompt_of_blank (trimStart_dropChars_of_blank margin h)
    rw [settle_afterPrompt, cutExactly_of_eq margin n (Or.inl h), Except.map, hcut]
    rfl
  | output margin =>
    by_cases hempty : dropChars margin line = ""
    · rw [settle_output_of_empty margin n hempty]
      simp only [hempty, if_true]
    · rw [settle_output_of_text margin n hempty hopens]
      simp only [hempty, if_false]

theorem settle_empty {s : State} (hs : s.IsBetween) (n : Int) :
    reader.settle s ("", n) = .ok (match s with
      | .prose => ([], .prose)
      | .prompt margin => ([⟨"", n⟩], .afterPrompt margin)
      | .afterPrompt margin => ([⟨"", n⟩], .output margin)
      | .output _ => ([⟨"", n⟩], .prose)) := by
  have hcut : ∀ margin, dropChars margin "" = "" := fun margin => by simp [dropChars]
  rw [settle_blank hs rfl]
  cases s <;> simp only [hcut, if_true]

/-! ### Numbered lines -/

@[simp] theorem number_nil (start : Int) : number start [] = [] := rfl

theorem number_cons (start : Int) (line : String) (lines : List String) :
    number start (line :: lines) = (line, start) :: number (start + 1) lines := by
  simp only [number, List.zipIdx_cons, List.zipIdx_succ, List.map_cons, List.map_map,
    Int.natCast_zero, Int.add_zero]
  congr 2
  funext ⟨l, i⟩
  simp only [Function.comp_apply, Prod.mk.injEq, true_and]
  omega

theorem number_append (start : Int) (before after : List String) :
    number start (before ++ after) =
      number start before ++ number (start + before.length) after := by
  induction before generalizing start with
  | nil => simp
  | cons line before ih =>
    rw [List.cons_append, number_cons, ih, number_cons, List.cons_append, List.length_cons]
    congr 3
    omega

theorem le_of_mem_number {start : Int} {lines : List String} {x : String × Int}
    (h : x ∈ number start lines) : start ≤ x.2 := by
  induction lines generalizing start with
  | nil => cases h
  | cons line rest ih =>
    rw [number_cons] at h
    rcases List.mem_cons.mp h with rfl | h
    · exact Int.le_refl start
    · have := ih h
      omega

theorem mem_of_mem_number {start : Int} {lines : List String} {x : String × Int}
    (h : x ∈ number start lines) : x.1 ∈ lines := by
  obtain ⟨⟨line, i⟩, hline, rfl⟩ := List.mem_map.mp h
  exact List.fst_mem_of_mem_zipIdx hline

theorem nodup_number (start : Int) (lines : List String) :
    ((number start lines).map (·.2)).Nodup := by
  induction lines generalizing start with
  | nil => exact List.nodup_nil
  | cons line rest ih =>
    rw [number_cons, List.map_cons, List.nodup_cons]
    refine ⟨fun h => ?_, ih _⟩
    obtain ⟨x, hx, heq⟩ := List.mem_map.mp h
    have := le_of_mem_number hx
    simp only at heq
    omega

/-! ### Whole texts -/

theorem normalize_eq_feed (lines : List String) (start : Int) :
    normalize lines start = (feed reader.settle .prose (number start lines)).map (·.1) := by
  rw [normalize, Rereader.run, run_eq_feed]
  simp only [List.append_nil]
  rfl

theorem exists_feed_of_normalize {lines : List String} {start : Int} {out : List SourceLine}
    (h : normalize lines start = .ok out) :
    ∃ final, feed reader.settle .prose (number start lines) = .ok (out, final) := by
  rw [normalize_eq_feed] at h
  cases hfeed : feed reader.settle .prose (number start lines) with
  | error d =>
    rw [hfeed] at h
    cases h
  | ok p =>
    rw [hfeed] at h
    cases h
    exact ⟨p.2, rfl⟩

theorem isBetween_of_feed {s final : State} {lines : List (String × Int)} {out : List SourceLine}
    (hs : s.IsBetween) (h : feed reader.settle s lines = .ok (out, final)) : final.IsBetween := by
  induction lines generalizing s out with
  | nil =>
    cases h
    exact hs
  | cons x rest ih =>
    obtain ⟨first, after, more, hstep, hrest, rfl⟩ := feed_cons_eq_ok h
    obtain ⟨cut, hreads, -⟩ := reads_of_settle hs hstep
    exact ih hreads.isBetween hrest

/-- The lines are none at all, or the last of them is empty. -/
def EndsBlank (lines : List SourceLine) : Prop :=
  lines = [] ∨ ∃ before n, lines = before ++ [⟨"", n⟩]

theorem EndsBlank.append {before after : List SourceLine} (h : EndsBlank after)
    (hbefore : after = [] → EndsBlank before) : EndsBlank (before ++ after) := by
  rcases h with rfl | ⟨front, n, rfl⟩
  · simpa using hbefore rfl
  · exact Or.inr ⟨before ++ front, n, by rw [List.append_assoc]⟩

/-- A reader that ends outside of a block has given out nothing since it was outside of one
before, or an empty line last. -/
theorem endsBlank_of_feed {s : State} {lines : List (String × Int)} {out : List SourceLine}
    (hs : s.IsBetween) (h : feed reader.settle s lines = .ok (out, .prose)) :
    EndsBlank out ∧ (out = [] → s = .prose) := by
  induction lines generalizing s out with
  | nil =>
    cases h
    exact ⟨Or.inl rfl, fun _ => rfl⟩
  | cons x rest ih =>
    obtain ⟨first, after, more, hstep, hrest, rfl⟩ := feed_cons_eq_ok h
    obtain ⟨cut, hreads, rfl⟩ := reads_of_settle hs hstep
    obtain ⟨hmore, hafter⟩ := ih hreads.isBetween hrest
    constructor
    · -- If nothing is given out any more, the reader is outside of the block behind this line.
      refine hmore.append fun hnil => ?_
      rw [hafter hnil] at hreads
      generalize hprose : State.prose = t at hreads
      cases hreads with
      | prose => exact Or.inl rfl
      | opening => cases hprose
      | behindPrompt =>
        split at hprose <;> cases hprose
      | blank => exact Or.inr ⟨[], x.2, rfl⟩
      | nextPrompt => cases hprose
      | output => cases hprose
    · intro hnil
      obtain ⟨hfirst, hmore⟩ := List.append_eq_nil_iff.mp hnil
      cases hreads with
      | prose => rfl
      | _ => simp at hfirst

/-- What two empty lines, of which the first has the number `n`, are given out as. -/
def gapOf (n : Int) : State → List SourceLine
  | .prose => []
  | .output _ => [⟨"", n⟩]
  | _ => [⟨"", n⟩, ⟨"", n + 1⟩]

/-- Two empty lines end every block, wherever the reader stands in it. -/
theorem feed_gap {s : State} (hs : s.IsBetween) (n : Int) :
    feed reader.settle s (number n ["", ""]) = .ok (gapOf n s, .prose) := by
  rw [number_cons, number_cons, number_nil, feed_cons_of_ok _ (settle_empty hs n)]
  cases s with
  | prompt margin => exact (hs margin rfl).elim
  | prose | output margin =>
    rw [feed_cons_of_ok _ (settle_empty isBetween_prose (n + 1))]
    rfl
  | afterPrompt margin =>
    rw [feed_cons_of_ok _ (settle_empty (isBetween_output margin) (n + 1))]
    rfl

/-- The reader of margins fails in front of the gap, or it starts afresh behind it. -/
theorem normalize_gap (before after : List String) (start : Int) :
    (∃ d, normalize before start = .error d ∧
      normalize (before ++ (["", ""] ++ after)) start = .error d) ∨
    ∃ first gap, normalize before start = .ok first ∧ (∀ l ∈ gap, l.text = "") ∧
      EndsBlank (first ++ gap) ∧
      normalize (before ++ (["", ""] ++ after)) start =
        (normalize after (start + before.length + 2)).map fun second => first ++ gap ++ second := by
  simp only [normalize_eq_feed, number_append]
  cases hbefore : feed reader.settle .prose (number start before) with
  | error d => exact Or.inl ⟨d, rfl, by rw [feed_append_of_error _ hbefore]; rfl⟩
  | ok p =>
    obtain ⟨first, s⟩ := p
    have hs : s.IsBetween := isBetween_of_feed isBetween_prose hbefore
    have hgap := feed_gap hs (start + before.length)
    refine Or.inr ⟨first, gapOf (start + before.length) s, rfl, ?_, ?_, ?_⟩
    · cases s <;> simp [gapOf]
    · cases s with
      | prompt margin => exact (hs margin rfl).elim
      | prose =>
        rw [gapOf, List.append_nil]
        exact (endsBlank_of_feed isBetween_prose hbefore).1
      | afterPrompt margin =>
        exact Or.inr ⟨first ++ [⟨"", start + before.length⟩], start + before.length + 1,
          by simp [gapOf]⟩
      | output margin => exact Or.inr ⟨first, start + before.length, rfl⟩
    · have hlength : ((["", ""] : List String).length : Int) = 2 := rfl
      rw [feed_append_of_ok _ hbefore, feed_append_of_ok _ hgap, hlength]
      cases feed reader.settle .prose (number (start + before.length + 2) after) with
      | error d => rfl
      | ok q => simp [Except.map]

end DocExamples.Margin
