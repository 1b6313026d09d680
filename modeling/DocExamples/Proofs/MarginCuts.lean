import DocExamples.Proofs.HiddenPrompts

/-!
# What a margin cuts off

The reader of margins gives out a line as it stands behind the margin (`eq_map_cut`).  A line behind
a prompt has to start at the margin, but a later output line is cut by the width of the margin
whatever it starts with.  The main statement is that nothing but white space is lost from a line,
unless it is an output line that does not reach the margin (`normalize_stripsBlanks_iff`).
-/

namespace DocExamples.Margin

open Text Transducer

/-! ### Removing white space -/

/-- The text is the raw line without some white space in front. -/
def StripsBlanks (raw text : String) : Prop :=
  ∃ lead : String, (∀ c ∈ lead.toList, isBlank c = true) ∧ raw = lead ++ text

theorem forall_mem_take_iff {α : Type} (p : α → Bool) (cs : List α) (n : Nat) :
    (∀ c ∈ cs.take n, p c = true) ↔ cs.dropWhile p = [] ∨ n ≤ (cs.takeWhile p).length := by
  induction cs generalizing n with
  | nil => simp
  | cons c cs ih =>
    cases n with
    | zero => simp
    | succ n =>
      cases h : p c with
      | false => simp [h]
      | true => simp only [List.take_succ_cons, List.forall_mem_cons, h, true_and, ih n,
          List.dropWhile_cons, List.takeWhile_cons, if_true, List.length_cons,
          Nat.add_le_add_iff_right]

theorem eq_take_append_dropChars (n : Nat) (s : String) :
    s = .ofList (s.toList.take n) ++ dropChars n s := by
  apply String.toList_inj.mp
  rw [String.toList_append, String.toList_ofList, toList_dropChars, List.take_append_drop]

/-- A cut removes white space only if it ends inside of the leading white space, or if there is
nothing else. -/
theorem stripsBlanks_dropChars_iff (n : Nat) (s : String) :
    StripsBlanks s (dropChars n s) ↔ trimStart s = "" ∨ n ≤ leadingBlanks s := by
  have hempty : trimStart s = "" ↔ s.toList.dropWhile isBlank = [] := by
    rw [← toList_trimStart, String.toList_eq_nil_iff]
  rw [hempty, leadingBlanks, ← forall_mem_take_iff]
  constructor
  · rintro ⟨lead, hlead, hs⟩
    -- What stands in front of the rest of a cut is what was cut off.
    have hcut := eq_take_append_dropChars n s
    have heq : lead ++ dropChars n s = .ofList (s.toList.take n) ++ dropChars n s :=
      hs.symm.trans hcut
    have hlists := congrArg String.toList heq
    rw [String.toList_append, String.toList_append, List.append_cancel_right_eq,
      String.toList_ofList] at hlists
    rw [← hlists]
    exact hlead
  · intro hblank
    refine ⟨.ofList (s.toList.take n), ?_, eq_take_append_dropChars n s⟩
    rw [String.toList_ofList]
    exact hblank

/-! ### Lines behind their margin -/

/-- The margin that is cut off the line: a line outside of blocks brings its own. -/
def Visit.margin (v : Visit) : Nat :=
  match v.state with
  | .prose => leadingBlanks v.line
  | .prompt margin => margin
  | .afterPrompt margin => margin
  | .output margin => margin

/-- The line opens a block or stands in one. -/
def Visit.isInBlock (v : Visit) : Bool :=
  match v.state with
  | .prose => Prompt.opens (trimStart v.line)
  | _ => true

/-- The line behind its margin. -/
def Visit.cut (v : Visit) : SourceLine := ⟨dropChars v.margin v.line, v.number⟩

/-- The line stands among output lines and holds something in front of the margin. -/
def Visit.fallsShort (v : Visit) : Bool :=
  match v.state with
  | .output margin => decide (leadingBlanks v.line < margin) && decide (trimStart v.line ≠ "")
  | _ => false

section Reads

variable {s after : State} {line : String} {n : Int} {cut : Option String}

theorem Reads.eq_cut (h : Reads s line cut after) :
    (cut.map (⟨·, n⟩)).toList =
      if (Visit.mk s line n).isInBlock then [(Visit.mk s line n).cut] else [] := by
  cases h with
  | prose hno => simp [Visit.isInBlock, hno]
  | opening hopens =>
    simp [Visit.isInBlock, Visit.cut, Visit.margin, hopens, dropChars_leadingBlanks]
  | behindPrompt => rfl
  | blank hempty => simp [Visit.isInBlock, Visit.cut, Visit.margin, hempty]
  | nextPrompt _ _ hcut => simp [Visit.isInBlock, Visit.cut, Visit.margin, hcut]
  | output => rfl

theorem margin_le_of_trimStart {margin : Nat} (h : trimStart line = dropChars margin line) :
    trimStart line = "" ∨ margin ≤ leadingBlanks line := by
  rw [or_iff_not_imp_left]
  intro hne
  have hpos : 0 < (trimStart line).toList.length := by
    rw [List.length_pos_iff, ne_eq, String.toList_eq_nil_iff]
    exact hne
  rw [← dropChars_leadingBlanks] at h hpos
  -- A margin behind the first character would leave a shorter text.
  have hlength := congrArg (fun t : String => t.toList.length) h
  simp only [toList_dropChars, List.length_drop] at hlength hpos
  omega

theorem fallsShort_output (margin : Nat) :
    (Visit.mk (.output margin) line n).fallsShort = false ↔
      trimStart line = "" ∨ margin ≤ leadingBlanks line := by
  rw [Visit.fallsShort, Bool.and_eq_false_iff, decide_eq_false_iff_not, decide_eq_false_iff_not,
    Nat.not_lt, ne_eq, not_not, or_comm]

theorem Reads.stripsBlanks_iff (h : Reads s line cut after) :
    StripsBlanks line (Visit.mk s line n).cut.text ↔ (Visit.mk s line n).fallsShort = false := by
  rw [Visit.cut, stripsBlanks_dropChars_iff]
  cases h with
  | prose | opening => exact iff_of_true (Or.inr (Nat.le_refl _)) rfl
  | behindPrompt hline => exact iff_of_true (hline.elim Or.inl margin_le_of_trimStart) rfl
  -- Among output lines nothing is known about what stands in front of the margin.
  | blank | nextPrompt | output => exact (fallsShort_output _).symm

end Reads

/-! ### Whole texts -/

section Feed

variable {s final : State} {lines : List (String × Int)} {out : List SourceLine}

theorem reads_of_mem_visits (hs : s.IsBetween)
    (h : feed reader.settle s lines = .ok (out, final)) :
    ∀ v ∈ visits s lines, ∃ cut after, Reads v.state v.line cut after := by
  induction lines generalizing s out with
  | nil => simp [visits]
  | cons x rest ih =>
    obtain ⟨line, n⟩ := x
    obtain ⟨first, after, more, hstep, hrest, rfl⟩ := feed_cons_eq_ok h
    obtain ⟨cut, hreads, -⟩ := reads_of_settle hs hstep
    rw [visits_cons_of_ok rest hstep]
    intro v hv
    rcases List.mem_cons.mp hv with rfl | hv
    · exact ⟨cut, after, hreads⟩
    · exact ih hreads.isBetween hrest v hv

/-- Given out are the lines of the blocks, each one as it stands behind its margin. -/
theorem eq_map_cut (hs : s.IsBetween) (h : feed reader.settle s lines = .ok (out, final)) :
    out = ((visits s lines).filter (·.isInBlock)).map (·.cut) := by
  induction lines generalizing s out with
  | nil =>
    cases h
    rfl
  | cons x rest ih =>
    obtain ⟨line, n⟩ := x
    obtain ⟨first, after, more, hstep, hrest, rfl⟩ := feed_cons_eq_ok h
    obtain ⟨cut, hreads, rfl⟩ := reads_of_settle hs hstep
    rw [visits_cons_of_ok rest hstep, hreads.eq_cut, ih hreads.isBetween hrest, List.filter_cons]
    split <;> rfl

end Feed

theorem getElem?_number (start : Int) (lines : List String) (i : Nat) :
    (number start lines)[i]? = lines[i]?.map fun line => (line, start + i) := by
  rw [number, List.getElem?_map, List.getElem?_zipIdx]
  cases lines[i]? with
  | none => rfl
  | some line => simp

theorem getElem?_of_mem_number {start : Int} {lines : List String} {x : String × Int}
    (h : x ∈ number start lines) : lines[(x.2 - start).toNat]? = some x.1 := by
  obtain ⟨i, hi⟩ := List.mem_iff_getElem?.mp h
  rw [getElem?_number, Option.map_eq_some_iff] at hi
  obtain ⟨line, hline, rfl⟩ := hi
  have hindex : (start + (i : Int) - start).toNat = i := by omega
  rw [hindex, hline]

/-- **Only output lines that fall short of the margin lose more than white space.**  Every line
that is given out belongs to the raw line of its number, and it is this line without some white
space, unless it is an output line that holds something in front of the margin. -/
theorem normalize_stripsBlanks_iff {lines : List String} {start : Int} {out : List SourceLine}
    (h : normalize lines start = .ok out) :
    ∀ l ∈ out, ∃ v ∈ visits .prose (number start lines),
      v.number = l.number ∧ start ≤ l.number ∧
      lines[(l.number - start).toNat]? = some v.line ∧
      (StripsBlanks v.line l.text ↔ v.fallsShort = false) := by
  obtain ⟨final, hfeed⟩ := exists_feed_of_normalize h
  intro l hl
  rw [eq_map_cut isBetween_prose hfeed] at hl
  obtain ⟨v, hv, rfl⟩ := List.mem_map.mp hl
  have hv := (List.mem_filter.mp hv).1
  obtain ⟨cut, after, hreads⟩ := reads_of_mem_visits isBetween_prose hfeed v hv
  have hnumbered : (v.line, v.number) ∈ number start lines :=
    map_visits hfeed ▸ List.mem_map.mpr ⟨v, hv, rfl⟩
  obtain ⟨i, hi⟩ := List.mem_iff_getElem?.mp hnumbered
  rw [getElem?_number, Option.map_eq_some_iff] at hi
  obtain ⟨line, hline, heq⟩ := hi
  obtain ⟨rfl, hnumber⟩ := Prod.mk.inj heq
  refine ⟨v, hv, rfl, ?_, ?_, hreads.stripsBlanks_iff⟩
  · change start ≤ v.number
    omega
  · have hindex : (v.number - start).toNat = i := by omega
    change lines[(v.number - start).toNat]? = some v.line
    rw [hindex, hline]

/-- The second line of a block's output may be indented further, but a line that starts in front of
the margin loses its first characters. -/
theorem normalize_stripsBlanks_sample :
    normalize ["Lists:", "  iex> f", "  [", "    5,", "xyz"] 5 =
        .ok [⟨"iex> f", 6⟩, ⟨"[", 7⟩, ⟨"  5,", 8⟩, ⟨"z", 9⟩] ∧
      StripsBlanks "    5," "  5," ∧ ¬StripsBlanks "xyz" "z" := by
  have hnormalize : normalize ["Lists:", "  iex> f", "  [", "    5,", "xyz"] 5 =
      .ok [⟨"iex> f", 6⟩, ⟨"[", 7⟩, ⟨"  5,", 8⟩, ⟨"z", 9⟩] := by decide +kernel
  have hvisits : ∀ v ∈ visits .prose (number 5 ["Lists:", "  iex> f", "  [", "    5,", "xyz"]),
      (v.number = 8 → v.line = "    5," ∧ v.fallsShort = false) ∧
      (v.number = 9 → v.line = "xyz" ∧ v.fallsShort = true) := by decide +kernel
  refine ⟨hnormalize, ?_, ?_⟩
  · obtain ⟨v, hv, hnumber, -, -, hiff⟩ :=
      normalize_stripsBlanks_iff hnormalize ⟨"  5,", 8⟩ (by simp)
    obtain ⟨hline, hreaches⟩ := (hvisits v hv).1 hnumber
    rw [← hline]
    exact hiff.mpr hreaches
  · obtain ⟨v, hv, hnumber, -, -, hiff⟩ :=
      normalize_stripsBlanks_iff hnormalize ⟨"z", 9⟩ (by simp)
    obtain ⟨hline, hshort⟩ := (hvisits v hv).2 hnumber
    rw [← hline]
    intro hstrips
    rw [hiff.mp hstrips] at hshort
    cases hshort

theorem output_cut_short :
    normalize ["  iex> 1", "  1", "xyz"] 1 = .ok [⟨"iex> 1", 1⟩, ⟨"1", 2⟩, ⟨"z", 3⟩] ∧
      ¬StripsBlanks "xyz" "z" := by
  refine ⟨by decide +kernel, ?_⟩
  have hcut : dropChars 2 "xyz" = "z" := by decide +kernel
  rw [← hcut, stripsBlanks_dropChars_iff]
  decide +kernel

end DocExamples.Margin
