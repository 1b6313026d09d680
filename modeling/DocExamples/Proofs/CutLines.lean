import DocExamples.Proofs.MarginCuts
import DocExamples.Proofs.RenderedBlocks

/-!
# Lines without their margins

The lines that the reader of margins gives out are documentation lines again, and their margins are
gone.  If only white space was cut off, then each of them takes the reader from where it stood to
where it went (`Reads.settle_cut`), so that the lines are given out again as they are
(`normalize_normalized`).
-/

namespace DocExamples.Margin

open Text Transducer

/-! ### One line -/

/-- The reader in the same place of a text whose margins are cut off. -/
def State.unindented : State → State
  | .prose => .prose
  | .prompt _ => .prompt 0
  | .afterPrompt _ => .afterPrompt 0
  | .output _ => .output 0

theorem StripsBlanks.trimStart_eq {raw text : String} (h : StripsBlanks raw text) :
    trimStart text = trimStart raw := by
  obtain ⟨lead, hlead, rfl⟩ := h
  exact (trimStart_append hlead text).symm

section Lines

variable {s after : State} {line text : String}

theorem Reads.settle_cut (h : Reads s line (some text) after) (hblanks : StripsBlanks line text)
    (n : Int) :
    reader.settle s.unindented (text, n) = .ok ([⟨text, n⟩], after.unindented) := by
  have htrim := hblanks.trimStart_eq
  cases h with
  | opening hopens =>
    have hsame := trimStart_trimStart line
    have hprompt : Prompt.opens (trimStart (trimStart line)) = true := by rw [hsame, hopens]
    unfold State.unindented
    rw [settle_prose_of_opens n hprompt, hsame, leadingBlanks_of_trimStart hsame]
  | @behindPrompt _ margin hline =>
    have hcut : trimStart (dropChars margin line) = "" ∨
        trimStart (dropChars margin line) = dropChars 0 (dropChars margin line) := by
      rw [htrim, dropChars_zero]
      exact hline
    unfold State.unindented
    rw [settle_afterPrompt, cutExactly_of_eq 0 n hcut, dropChars_zero]
    cases hprompt : Prompt.isPrompt (dropChars margin line) <;>
      simp only [Except.map, hprompt, Bool.false_eq_true, if_true, if_false]
  | blank => exact settle_output_of_empty 0 n (dropChars_zero "")
  | nextPrompt hne hopens hcut =>
    have hprompt : Prompt.opens (trimStart (trimStart line)) = true := by rw [htrim, hopens]
    have hsame : trimStart (trimStart line) = dropChars 0 (trimStart line) := by
      rw [trimStart_trimStart, dropChars_zero]
    have hfull : dropChars 0 (trimStart line) ≠ "" := by
      rw [dropChars_zero]
      exact ne_empty_of_opens hopens
    unfold State.unindented
    rw [settle_output_of_opens 0 n hfull hprompt, cutExactly_of_eq 0 n (Or.inr hsame),
      dropChars_zero]
    rfl
  | @output _ margin hne hopens =>
    have htext : Prompt.opens (trimStart (dropChars margin line)) = false := by rw [htrim, hopens]
    have hfull : dropChars 0 (dropChars margin line) ≠ "" := by rwa [dropChars_zero]
    unfold State.unindented
    rw [settle_output_of_text 0 n hfull htext, dropChars_zero]

/-- A line that is given out is cut where the reader stands. -/
theorem Reads.cut_eq {n : Int} (h : Reads s line (some text) after) :
    (Visit.mk s line n).isInBlock = true ∧ (Visit.mk s line n).cut.text = text := by
  have hcut := h.eq_cut (n := n)
  cases hblock : (Visit.mk s line n).isInBlock with
  | false =>
    rw [hblock] at hcut
    cases hcut
  | true =>
    rw [hblock] at hcut
    have hline : SourceLine.mk text n = (Visit.mk s line n).cut := by simpa using hcut
    exact ⟨rfl, by rw [← hline]⟩

end Lines

/-! ### Whole texts -/

theorem feed_cut {s final : State} {lines : List (String × Int)} {out : List SourceLine}
    (hs : s.IsBetween) (h : feed reader.settle s lines = .ok (out, final))
    (hblanks : ∀ v ∈ visits s lines, v.isInBlock = true → StripsBlanks v.line v.cut.text)
    (second : Int) :
    feed reader.settle s.unindented (number second (out.map (·.text))) =
      .ok (linesFrom second (out.map (·.text)), final.unindented) := by
  induction lines generalizing s out second with
  | nil =>
    cases h
    rfl
  | cons x rest ih =>
    obtain ⟨line, n⟩ := x
    obtain ⟨first, after, more, hstep, hrest, rfl⟩ := feed_cons_eq_ok h
    obtain ⟨cut, hreads, rfl⟩ := reads_of_settle hs hstep
    rw [visits_cons_of_ok rest hstep, List.forall_mem_cons] at hblanks
    have hmore := ih hreads.isBetween hrest hblanks.2
    cases cut with
    | none =>
      -- Prose was left out, and the reader stands outside of a block as before.
      cases hreads
      exact hmore second
    | some text =>
      obtain ⟨hblock, htext⟩ := hreads.cut_eq (n := n)
      have hline := hblanks.1 hblock
      rw [htext] at hline
      change feed reader.settle s.unindented (number second (text :: more.map (·.text))) =
        .ok (linesFrom second (text :: more.map (·.text)), final.unindented)
      rw [number_cons, feed_cons_of_ok _ (hreads.settle_cut hline second), hmore (second + 1),
        linesFrom_cons]
      rfl

/-- **Lines that are normalized stay as they are.**  If nothing but white space was cut off from the
lines of a text, then what was given out for them can be normalized, and is given out again, under
whatever numbers. -/
theorem normalize_normalized {lines : List String} {start : Int} {out : List SourceLine}
    (h : normalize lines start = .ok out)
    (hblanks : ∀ l ∈ out, ∃ raw, lines[(l.number - start).toNat]? = some raw ∧
      StripsBlanks raw l.text) (second : Int) :
    normalize (out.map (·.text)) second = .ok (linesFrom second (out.map (·.text))) := by
  obtain ⟨final, hfeed⟩ := exists_feed_of_normalize h
  have hvisits : ∀ v ∈ visits .prose (number start lines), v.isInBlock = true →
      StripsBlanks v.line v.cut.text := by
    intro v hv hblock
    have hout : v.cut ∈ out := by
      rw [eq_map_cut isBetween_prose hfeed]
      exact List.mem_map_of_mem (List.mem_filter.mpr ⟨hv, hblock⟩)
    have hnumber : (v.line, v.number) ∈ number start lines :=
      map_visits hfeed ▸ List.mem_map_of_mem hv
    obtain ⟨raw, hraw, hstrips⟩ := hblanks v.cut hout
    have hline : lines[(v.cut.number - start).toNat]? = some v.line :=
      getElem?_of_mem_number hnumber
    rw [hline] at hraw
    cases hraw
    exact hstrips
  have hagain := feed_cut isBetween_prose hfeed hvisits second
  rw [normalize_eq_feed]
  change (feed reader.settle State.prose.unindented _).map (·.1) = _
  rw [hagain]
  rfl

/-- A block between lines of prose, with an output line that is indented further. -/
theorem normalize_normalized_sample :
    normalize ["Lists:", "  iex> f", "  [", "    5]", "  ", "Text."] 1 =
      .ok [⟨"iex> f", 2⟩, ⟨"[", 3⟩, ⟨"  5]", 4⟩, ⟨"", 5⟩] ∧
    normalize ["iex> f", "[", "  5]", ""] 8 =
      .ok [⟨"iex> f", 8⟩, ⟨"[", 9⟩, ⟨"  5]", 10⟩, ⟨"", 11⟩] := by
  have hnormalize : normalize ["Lists:", "  iex> f", "  [", "    5]", "  ", "Text."] 1 =
      .ok [⟨"iex> f", 2⟩, ⟨"[", 3⟩, ⟨"  5]", 4⟩, ⟨"", 5⟩] := by decide +kernel
  have hmargin : ∀ c ∈ "  ".toList, isBlank c = true := List.all_eq_true.mp (by decide +kernel)
  refine ⟨hnormalize, normalize_normalized hnormalize ?_ 8⟩
  simp only [List.forall_mem_cons]
  exact ⟨⟨"  iex> f", rfl, "  ", hmargin, rfl⟩, ⟨"  [", rfl, "  ", hmargin, rfl⟩,
    ⟨"    5]", rfl, "  ", hmargin, rfl⟩, ⟨"  ", rfl, "  ", hmargin, rfl⟩, by simp⟩

-- An output line that is cut inside of its text can turn into a prompt.
example : normalize ["  iex> 1", "  1", "abiex> 2", "    3"] 1 =
      .ok [⟨"iex> 1", 1⟩, ⟨"1", 2⟩, ⟨"iex> 2", 3⟩, ⟨"  3", 4⟩] ∧
    normalize ["iex> 1", "1", "iex> 2", "  3"] 1 = .error (.indentationMismatch 4 "  3" 0) := by
  decide +kernel

end DocExamples.Margin
