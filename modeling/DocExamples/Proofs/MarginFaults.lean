import DocExamples.Proofs.MarginCuts

/-!
# Lines that do not keep the margin

The reader of margins fails at one kind of line: it must start at the margin, it is not blank, and
it stands elsewhere (`normalize_eq_error_iff`).  An empty line takes the margin away, so that the
next prompt brings a new one.  The main statement is that this fails behind a prompt only: an empty
line there counts as output, and a prompt behind it is still held to the old margin
(`fails_behind_empty_iff`).
-/

namespace DocExamples.Margin

open Text Transducer

/-! ### One line -/

/-- The line has to start at the margin. -/
def Visit.isChecked (v : Visit) : Bool :=
  match v.state with
  | .prose => false
  | .prompt _ => true
  | .afterPrompt _ => true
  | .output margin => decide (dropChars margin v.line ≠ "") && Prompt.opens (trimStart v.line)

/-- The line holds something, and it does not start at the margin. -/
def Visit.IsMisplaced (v : Visit) : Prop :=
  trimStart v.line ≠ "" ∧ trimStart v.line ≠ v.cut.text

instance (v : Visit) : Decidable v.IsMisplaced := inferInstanceAs (Decidable (_ ∧ _))

/-- A line that holds something starts at one column only. -/
theorem trimStart_eq_dropChars_iff {line : String} (margin : Nat) (h : trimStart line ≠ "") :
    trimStart line = dropChars margin line ↔ leadingBlanks line = margin := by
  rw [← dropChars_leadingBlanks] at h ⊢
  have hinside : leadingBlanks line < line.length := by
    rw [ne_eq, dropChars_eq_empty_iff] at h
    omega
  constructor
  · intro heq
    have hlength := congrArg (fun s : String => s.toList.length) heq
    simp only [toList_dropChars, List.length_drop, String.length_toList] at hlength
    omega
  · intro heq
    rw [heq]

section Lines

variable {line : String} {n : Int} {d : Defect}

theorem cutExactly_eq_error_iff (margin : Nat) :
    cutExactly margin n line = .error d ↔
      (trimStart line ≠ "" ∧ trimStart line ≠ dropChars margin line) ∧
        d = .indentationMismatch n line margin := by
  simp only [cutExactly]
  by_cases h : trimStart line ≠ "" ∧ trimStart line ≠ dropChars margin line
  · rw [if_pos h, and_iff_right h, Except.error.injEq, eq_comm]
  · rw [if_neg h]
    constructor
    · intro hcut
      cases hcut
    · intro hcut
      exact (h hcut.1).elim

/-- A line stops the reader exactly if it has to start at the margin and does not. -/
theorem settle_eq_error_iff (s : State) :
    reader.settle s (line, n) = .error d ↔
      (Visit.mk s line n).isChecked = true ∧ (Visit.mk s line n).IsMisplaced ∧
        d = .indentationMismatch n line (Visit.mk s line n).margin := by
  cases s with
  | prose =>
    have hfree : (Visit.mk .prose line n).isChecked = false := rfl
    rw [hfree]
    constructor
    · intro h
      cases hopens : Prompt.opens (trimStart line) with
      | true =>
        rw [settle_prose_of_opens n hopens] at h
        cases h
      | false =>
        rw [settle_prose_of_text n hopens] at h
        cases h
    · intro h
      cases h.1
  | prompt margin =>
    rw [settle_prompt, map_eq_error_iff, cutExactly_eq_error_iff]
    exact (and_iff_right rfl).symm
  | afterPrompt margin =>
    rw [settle_afterPrompt, map_eq_error_iff, cutExactly_eq_error_iff]
    exact (and_iff_right rfl).symm
  | output margin =>
    by_cases hempty : dropChars margin line = ""
    · have hfree : (Visit.mk (.output margin) line n).isChecked = false := by
        simp [Visit.isChecked, hempty]
      rw [settle_output_of_empty margin n hempty, hfree]
      simp
    · cases hopens : Prompt.opens (trimStart line) with
      | true =>
        have hchecked : (Visit.mk (.output margin) line n).isChecked = true := by
          simp [Visit.isChecked, hempty, hopens]
        rw [settle_output_of_opens margin n hempty hopens, map_eq_error_iff,
          cutExactly_eq_error_iff]
        exact (and_iff_right hchecked).symm
      | false =>
        have hfree : (Visit.mk (.output margin) line n).isChecked = false := by
          simp [Visit.isChecked, hopens]
        rw [settle_output_of_text margin n hempty hopens, hfree]
        simp

end Lines

/-! ### Whole texts -/

/-- The lines visited are the first ones. -/
theorem prefix_visits (s : State) (lines : List (String × Int)) :
    (visits s lines).map (fun v => (v.line, v.number)) <+: lines := by
  induction lines generalizing s with
  | nil => exact List.prefix_rfl
  | cons x rest ih =>
    obtain ⟨line, n⟩ := x
    cases hstep : reader.settle s (line, n) with
    | error d =>
      rw [visits, hstep]
      exact ⟨rest, rfl⟩
    | ok p =>
      rw [visits_cons_of_ok rest hstep, List.map_cons]
      exact (List.prefix_cons_inj _).mpr (ih p.2)

/-- The reader fails exactly at a line that must start at the margin and does not. -/
theorem feed_eq_error_iff {s : State} {lines : List (String × Int)} {d : Defect} :
    feed reader.settle s lines = .error d ↔
      ∃ v ∈ visits s lines, v.isChecked = true ∧ v.IsMisplaced ∧
        d = .indentationMismatch v.number v.line v.margin := by
  induction lines generalizing s with
  | nil =>
    constructor
    · intro h
      cases h
    · rintro ⟨v, hv, -⟩
      cases hv
  | cons x rest ih =>
    obtain ⟨line, n⟩ := x
    have hline : reader.settle s (line, n) = .error d ↔ _ := settle_eq_error_iff s
    cases hstep : reader.settle s (line, n) with
    | error e =>
      -- Nothing is read behind the line, and so it is the last one visited.
      have hfeed : feed reader.settle s ((line, n) :: rest) = .error e :=
        feed_cons_of_error rest hstep
      rw [hstep] at hline
      rw [hfeed, hline, visits, hstep]
      constructor
      · intro h
        exact ⟨_, List.mem_singleton.mpr rfl, h⟩
      · rintro ⟨v, hv, h⟩
        obtain rfl := List.mem_singleton.mp hv
        exact h
    | ok p =>
      rw [feed_cons_of_ok rest hstep, map_eq_error_iff, ih, visits_cons_of_ok rest hstep]
      constructor
      · rintro ⟨v, hv, h⟩
        exact ⟨v, List.mem_cons_of_mem _ hv, h⟩
      · rintro ⟨v, hv, h⟩
        rcases List.mem_cons.mp hv with rfl | hv
        · have herror := hline.mpr h
          rw [hstep] at herror
          cases herror
        · exact ⟨v, hv, h⟩

theorem normalize_eq_error_iff {lines : List String} {start : Int} {d : Defect} :
    normalize lines start = .error d ↔
      ∃ v ∈ visits .prose (number start lines), v.isChecked = true ∧ v.IsMisplaced ∧
        d = .indentationMismatch v.number v.line v.margin := by
  rw [normalize_eq_feed, map_eq_error_iff, feed_eq_error_iff]

theorem bounds_of_mem_number {start : Int} {lines : List String} {x : String × Int}
    (h : x ∈ number start lines) : start ≤ x.2 ∧ x.2 < start + lines.length := by
  obtain ⟨i, hi⟩ := List.mem_iff_getElem?.mp h
  rw [getElem?_number, Option.map_eq_some_iff] at hi
  obtain ⟨line, hline, rfl⟩ := hi
  have hlength := (List.getElem?_eq_some_iff.mp hline).1
  dsimp only
  omega

theorem bounds_of_mem_visits {s : State} {start : Int} {lines : List String} {v : Visit}
    (h : v ∈ visits s (number start lines)) :
    start ≤ v.number ∧ v.number < start + lines.length := by
  have hmem : (v.line, v.number) ∈ number start lines :=
    (prefix_visits s _).subset (List.mem_map_of_mem h)
  exact bounds_of_mem_number hmem

/-- The line that a failure is reported with is one of those read. -/
theorem bounds_of_feed_error {s : State} {start : Int} {lines : List String} {d : Defect}
    {k : Int} (h : feed reader.settle s (number start lines) = .error d) (hk : d.line = some k) :
    start ≤ k ∧ k < start + lines.length := by
  obtain ⟨v, hv, -, -, rfl⟩ := feed_eq_error_iff.mp h
  cases hk
  exact bounds_of_mem_visits hv

/-! ### Where a failure stands -/

/-- The reader fails at the line with the number `k`, if the lines are numbered from `start`. -/
def FailsAt (s : State) (start : Int) (lines : List String) (k : Int) : Prop :=
  ∃ d, feed reader.settle s (number start lines) = .error d ∧ d.line = some k

section FailsAt

variable {s after : State} {start k : Int}

theorem failsAt_append_of_error {lines : List String} (rest : List String) {d : Defect}
    (h : feed reader.settle s (number start lines) = .error d) :
    FailsAt s start (lines ++ rest) k ↔ d.line = some k := by
  rw [FailsAt, number_append, feed_append_of_error _ h]
  constructor
  · rintro ⟨_, ⟨⟩, hline⟩
    exact hline
  · intro hline
    exact ⟨d, rfl, hline⟩

theorem failsAt_append_of_ok {lines : List String} (rest : List String) {out : List SourceLine}
    (h : feed reader.settle s (number start lines) = .ok (out, after)) :
    FailsAt s start (lines ++ rest) k ↔ FailsAt after (start + lines.length) rest k := by
  simp only [FailsAt, number_append, feed_append_of_ok _ h, map_eq_error_iff]

theorem failsAt_cons_of_ok {line : String} (rest : List String) {out : List SourceLine}
    (h : reader.settle s (line, start) = .ok (out, after)) :
    FailsAt s start (line :: rest) k ↔ FailsAt after (start + 1) rest k := by
  simp only [FailsAt, number_cons, feed_cons_of_ok _ h, map_eq_error_iff]

theorem not_failsAt_of_lt {lines : List String} (h : k < start) : ¬FailsAt s start lines k := by
  rintro ⟨d, hd, hline⟩
  have hbounds := bounds_of_feed_error hd hline
  omega

theorem failsAt_head_iff {line : String} {rest : List String} :
    FailsAt s start (line :: rest) start ↔ ∃ d, reader.settle s (line, start) = .error d := by
  cases hstep : reader.settle s (line, start) with
  | ok p =>
    rw [failsAt_cons_of_ok rest hstep]
    refine iff_of_false (not_failsAt_of_lt (by omega)) ?_
    rintro ⟨d, hd⟩
    cases hd
  | error d =>
    have hfeed : feed reader.settle s (number start (line :: rest)) = .error d := by
      rw [number_cons, feed_cons_of_error _ hstep]
    obtain ⟨-, -, rfl⟩ := (settle_eq_error_iff s).mp hstep
    exact iff_of_true ⟨_, hfeed, rfl⟩ ⟨_, rfl⟩

end FailsAt

/-! ### Prompts behind an empty line -/

section EmptyLine

variable {line : String} (hopens : Prompt.opens (trimStart line) = true)

include hopens

/-- Outside of a block, and among output lines, an empty line makes the next prompt bring its own
margin. -/
theorem exists_feed_empty_opening {s : State} (hs : s.IsBetween)
    (hno : ∀ margin, s ≠ .afterPrompt margin) (n : Int) :
    ∃ out, feed reader.settle s (number n ["", line]) =
      .ok (out, .afterPrompt (leadingBlanks line)) := by
  have hprompt : feed reader.settle .prose (number (n + 1) [line]) =
      .ok ([⟨trimStart line, n + 1⟩], .afterPrompt (leadingBlanks line)) := by
    rw [number_cons, number_nil, feed_cons_of_ok [] (settle_prose_of_opens (n + 1) hopens)]
    rfl
  have hempty := settle_empty hs n
  rw [number_cons]
  cases s with
  | prose =>
    rw [feed_cons_of_ok _ hempty, hprompt]
    exact ⟨_, rfl⟩
  | output margin =>
    rw [feed_cons_of_ok _ hempty, hprompt]
    exact ⟨_, rfl⟩
  | prompt margin => exact (hs margin rfl).elim
  | afterPrompt margin => exact (hno margin rfl).elim

/-- Directly behind a prompt an empty line keeps the margin. -/
theorem settle_output_fails_iff (margin : Nat) (n : Int) :
    (∃ d, reader.settle (.output margin) (line, n) = .error d) ↔
      margin < line.length ∧ leadingBlanks line ≠ margin := by
  have hne := ne_empty_of_opens hopens
  have hchecked : (Visit.mk (.output margin) line n).isChecked = true ↔ margin < line.length := by
    simp only [Visit.isChecked, hopens, Bool.and_true, decide_eq_true_eq, ne_eq,
      dropChars_eq_empty_iff, Nat.not_le]
  have hmisplaced : (Visit.mk (.output margin) line n).IsMisplaced ↔
      leadingBlanks line ≠ margin := by
    have hcolumn := not_congr (trimStart_eq_dropChars_iff margin hne)
    exact (and_iff_right hne).trans hcolumn
  constructor
  · rintro ⟨d, hd⟩
    obtain ⟨h, hm, -⟩ := (settle_eq_error_iff _).mp hd
    exact ⟨hchecked.mp h, hmisplaced.mp hm⟩
  · rintro ⟨h, hm⟩
    exact ⟨_, (settle_eq_error_iff _).mpr ⟨hchecked.mpr h, hmisplaced.mpr hm, rfl⟩⟩

end EmptyLine

/-- **An empty line takes the margin away, unless it stands directly behind a prompt.**  Elsewhere
the next prompt brings its own margin.  The reader fails at a prompt behind an empty line exactly if
a prompt stands in front of the empty line and its margin is another one, and the line is longer
than that margin. -/
theorem fails_behind_empty_iff {line : String} (before after : List String) (start : Int)
    (hopens : Prompt.opens (trimStart line) = true) :
    (∀ out s, feed reader.settle .prose (number start before) = .ok (out, s) →
      (∀ margin, s ≠ .afterPrompt margin) →
        ∃ more, feed reader.settle .prose (number start (before ++ ["", line])) =
          .ok (more, .afterPrompt (leadingBlanks line))) ∧
    ((∃ d, normalize (before ++ "" :: line :: after) start = .error d ∧
        d.line = some (start + before.length + 1)) ↔
      ∃ out margin, feed reader.settle .prose (number start before) =
          .ok (out, .afterPrompt margin) ∧
        margin < line.length ∧ leadingBlanks line ≠ margin) := by
  constructor
  · intro out s hfeed hno
    have hs : s.IsBetween := isBetween_of_feed isBetween_prose hfeed
    obtain ⟨more, hmore⟩ := exists_feed_empty_opening hopens hs hno (start + before.length)
    rw [number_append, feed_append_of_ok _ hfeed, hmore]
    exact ⟨_, rfl⟩
  · simp only [normalize_eq_feed, map_eq_error_iff]
    change FailsAt .prose start (before ++ "" :: line :: after) _ ↔ _
    cases hfeed : feed reader.settle .prose (number start before) with
    | error d =>
      -- The failure stands in front of the empty line.
      constructor
      · intro hfails
        have hline := (failsAt_append_of_error _ hfeed).mp hfails
        have hbounds := bounds_of_feed_error hfeed hline
        omega
      · rintro ⟨out, margin, herror, -⟩
        cases herror
    | ok p =>
      obtain ⟨out, s⟩ := p
      have hs : s.IsBetween := isBetween_of_feed isBetween_prose hfeed
      rw [failsAt_append_of_ok _ hfeed, failsAt_cons_of_ok _ (settle_empty hs _)]
      cases s with
      | prompt margin => exact (hs margin rfl).elim
      | prose | output margin =>
        refine iff_of_false ?_ ?_
        · rw [failsAt_cons_of_ok _ (settle_prose_of_opens _ hopens)]
          exact not_failsAt_of_lt (by omega)
        · rintro ⟨_, _, hbehind, -⟩
          cases hbehind
      | afterPrompt margin =>
        rw [failsAt_head_iff, settle_output_fails_iff hopens]
        constructor
        · intro h
          exact ⟨out, margin, rfl, h⟩
        · rintro ⟨_, _, ⟨⟩, h⟩
          exact h

/-- Behind an answered example the prompt brings its own margin. -/
theorem resets_behind_output :
    Prompt.opens (trimStart "    iex> 2") = true ∧
    (∃ more, feed reader.settle .prose (number 1 (["  iex> 1", "  1"] ++ ["", "    iex> 2"])) =
      .ok (more, .afterPrompt 4)) ∧
    ¬∃ d, normalize (["  iex> 1", "  1"] ++ "" :: "    iex> 2" :: ["    2"]) 1 = .error d ∧
      d.line = some 4 := by
  have hopens : Prompt.opens (trimStart "    iex> 2") = true := by decide +kernel
  have hfeed : feed reader.settle .prose (number 1 ["  iex> 1", "  1"]) =
      .ok ([⟨"iex> 1", 1⟩, ⟨"1", 2⟩], .output 2) := by decide +kernel
  obtain ⟨hresets, hfails⟩ := fails_behind_empty_iff ["  iex> 1", "  1"] ["    2"] 1 hopens
  refine ⟨hopens, hresets _ _ hfeed (fun _ => by simp), fun h => ?_⟩
  obtain ⟨out, margin, hbehind, -⟩ := hfails.mp h
  rw [hfeed] at hbehind
  cases hbehind

/-- Behind an example without an answer it is held to the old one. -/
theorem fails_behind_blank_prompt :
    Prompt.opens (trimStart "  iex> 2") = true ∧
      normalize ["iex> 1", "", "  iex> 2"] 1 = .error (.indentationMismatch 3 "  iex> 2" 0) := by
  constructor <;> decide +kernel

end DocExamples.Margin
