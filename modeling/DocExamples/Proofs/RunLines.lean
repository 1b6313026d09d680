import DocExamples.Proofs.GroupPlaces
import DocExamples.Proofs.RunCalls
import Mathlib.Algebra.BigOperators.Group.List.Basic

/-!
# The lines of a run

A run counts the line of each example from the start of the group, while the line of its first
prompt is its place in the document.  The two part where an expected result holds a line boundary
that is no line feed.  The main statement is that this is the only difference
(`countedLine_eq_prompt_iff`).
-/

namespace DocExamples.Group

open Text

/-- How many lines a run counts too many in front of the example at this place of the group. -/
def drift (g : Group) (k : Nat) : Nat :=
  ((g.examples.take k).map fun e => innerBreaks e.expected.toList).sum

theorem drift_eq_zero_iff (g : Group) (k : Nat) :
    g.drift k = 0 ↔ ∀ e ∈ g.examples.take k, innerBreaks e.expected.toList = 0 := by
  rw [drift, List.sum_eq_zero_iff_forall_eq_nat, List.forall_mem_map]

theorem countedLine_eq {g : Group} (h : ∀ e ∈ g.examples, ∀ a ∈ e.answers, a ≠ "") (k : Nat) :
    g.countedLine k = g.startLine + ((g.examples.take k).map (·.size)).sum + g.drift k := by
  have hheights : ((g.examples.take k).map (·.height)).sum =
      ((g.examples.take k).map (·.size)).sum + g.drift k := by
    rw [drift, ← List.sum_map_add]
    congr 1
    refine List.map_congr_left fun e he => ?_
    exact Example.height_eq (h e (List.mem_of_mem_take he))
  rw [countedLine, hheights]
  omega

end DocExamples.Group

namespace DocExamples.Transcript

open Text Margin

theorem Makes.answers_ne_empty {cut : List (List SourceLine)} {g : Group} (h : Makes cut g)
    (hfeeds : ∀ l ∈ cut.flatten, '\n' ∉ l.text.toList) :
    ∀ e ∈ g.examples, ∀ a ∈ e.answers, a ≠ "" := by
  intro e he a ha
  rw [h.examples] at he
  obtain ⟨lines, hlines, rfl⟩ := List.mem_map.mp he
  have hinside : ∀ l ∈ lines, isTerminator l.text = false :=
    fun l hl => h.inside l (List.mem_flatten_of_mem hlines hl)
  rw [answers_exampleOf hinside fun l hl => hfeeds l (List.mem_flatten_of_mem hlines hl)] at ha
  obtain ⟨l, hl, rfl⟩ := List.mem_map.mp ha
  exact ne_empty_of_not_terminator (hinside l (List.mem_filter.mp hl).1)

section Documents

variable {identifier : Identifier} {doc : String} {line : Int} {groups : List Group} {g : Group}

theorem answers_ne_empty (h : extract identifier doc line = .ok groups) (hg : g ∈ groups) :
    ∀ e ∈ g.examples, ∀ a ∈ e.answers, a ≠ "" := by
  have hfeeds := newline_not_mem_documentVisits h
  rw [eq_groupsOf_visits h] at hg
  obtain ⟨before, cut, after, hlines, hmakes⟩ := makes_of_mem_groupsOf hg
  refine hmakes.answers_ne_empty fun l hl => hfeeds l ?_
  rw [hlines]
  exact List.mem_append_left _ (List.mem_append_right _ hl)

theorem exists_place {margin : Nat} {places : List (List Visit)} {examples : List Example}
    (h : List.Forall₂ (Occupies margin) places examples) {k : Nat} {e : Example}
    (he : examples[k]? = some e) :
    ∃ front place back, places = front ++ place :: back ∧ front.length = k ∧
      Occupies margin place e ∧
      front.flatten.length = ((examples.take k).map (·.size)).sum := by
  induction h generalizing k with
  | nil => cases he
  | @cons place example' places examples hplace hrest ih =>
    cases k with
    | zero =>
      obtain rfl : example' = e := Option.some.inj he
      exact ⟨[], place, places, rfl, rfl, hplace, rfl⟩
    | succ k =>
      obtain ⟨front, found, back, rfl, rfl, hfound, hlength⟩ := ih he
      refine ⟨place :: front, found, back, rfl, rfl, hfound, ?_⟩
      rw [List.flatten_cons, List.length_append, hplace.size, hlength, List.take_succ_cons,
        List.map_cons, List.sum_cons]

/-- The place of an example is as many lines behind the start of the group as the examples in front
of it take. -/
theorem Stands.line_of_place (h : extract identifier doc line = .ok groups) {margin : Nat}
    {before : List Visit} {places : List (List Visit)}
    (hstands : Stands (documentVisits doc line) (line + 1) g margin before places) {k : Nat}
    {e : Example} (he : g.examples[k]? = some e) :
    ∃ (i : Nat) (first : Visit) (rest : List Visit), places[k]? = some (first :: rest) ∧
      Prompt.opens (dropChars margin first.line) = true ∧
      (documentLines doc)[i]? = some first.line ∧
      line + 1 + (i : Int) = g.startLine + ((g.examples.take k).map (·.size)).sum := by
  obtain ⟨front, place, back, rfl, rfl, hplace, hlength⟩ := exists_place hstands.examples he
  obtain ⟨first, rest, rfl, hopens⟩ := hplace.opens
  obtain ⟨after, hvisits⟩ := hstands.lines
  have hcut : documentVisits doc line =
      (before ++ front.flatten) ++ first :: (rest ++ back.flatten ++ after) := by
    rw [← hvisits]
    simp
  have hline := (number_of_documentVisits h hcut).2
  refine ⟨(before ++ front.flatten).length, first, rest, ?_, hopens, hline, ?_⟩
  · rw [List.getElem?_append_right (Nat.le_refl _), Nat.sub_self, List.getElem?_cons_zero]
  · rw [hstands.start, List.length_append, hlength]
    omega

/-- **A run finds the lines of prompts up to line boundaries inside of results.**  Each example is
evaluated at the line of its first prompt, or further down by as many lines as there are line
boundaries other than line feeds inside of the expected results in front of it.  So the lines are
the same exactly if there are none. -/
theorem countedLine_eq_prompt_iff (h : extract identifier doc line = .ok groups)
    (hg : g ∈ groups) :
    (∀ {σ : Type} (ev : Evaluator σ) (s after : σ) (values : List Value),
      (g.run ev).run.run s = (.ok values, after) →
        (g.run ev.recorded).run.run (s, []) =
          (.ok values, after,
            (g.examples.mapIdx fun k e => e.calls (g.countedLine k)).flatten)) ∧
      ∃ margin before places,
        Stands (documentVisits doc line) (line + 1) g margin before places ∧
        ∀ k e, g.examples[k]? = some e →
          ∃ (i : Nat) (first : Visit) (rest : List Visit), places[k]? = some (first :: rest) ∧
            Prompt.opens (dropChars margin first.line) = true ∧
            (documentLines doc)[i]? = some first.line ∧
            g.countedLine k = line + 1 + (i : Int) + (g.drift k : Int) ∧
            (g.countedLine k = line + 1 + (i : Int) ↔
              ∀ earlier ∈ g.examples.take k, innerBreaks earlier.expected.toList = 0) := by
  refine ⟨?_, ?_⟩
  · intro σ ev s after values hrun
    obtain ⟨made, -, hall, hrecorded⟩ := g.records_run ev s []
    rw [hrun, hall values after hrun, List.nil_append] at hrecorded
    exact hrecorded
  · obtain ⟨margin, before, places, hstands⟩ := exists_stands h hg
    refine ⟨margin, before, places, hstands, fun k e he => ?_⟩
    obtain ⟨i, first, rest, hplace, hopens, hline, hnumber⟩ := hstands.line_of_place h he
    have hcounted : g.countedLine k = line + 1 + (i : Int) + (g.drift k : Int) := by
      rw [Group.countedLine_eq (answers_ne_empty h hg), hnumber]
    refine ⟨i, first, rest, hplace, hopens, hline, hcounted, ?_⟩
    rw [← Group.drift_eq_zero_iff, hcounted]
    omega

end Documents

/-- A document whose second result holds a form feed. -/
def sampleDocument : String := "  iex> 1\n  1\n  iex> x\n  a\x0cb\n  iex> 3\n  3"

def sampleGroup : Group :=
  ⟨11, .moduledoc, [⟨["1"], "1", "\niex> 1\n1"⟩, ⟨["x"], "a\x0cb", "\niex> x\na\x0cb"⟩,
    ⟨["3"], "3", "\niex> 3\n3"⟩]⟩

def sampleEvaluator : Evaluator (List Call) :=
  TableEvaluator.ofTable {} [("x", .value (.str "a\x0cb") none)]

/-- The third example is evaluated one line below its prompt. -/
theorem run_sampleGroup :
    extract .moduledoc sampleDocument 10 = .ok [sampleGroup] ∧
      ((sampleGroup.run sampleEvaluator.recorded).run.run ([], [])).2.2 =
        [.evaluate "1" 11, .lastExpression "1", .evaluate "1" 12, .evaluate "x" 13,
          .lastExpression "x", .evaluate "a\x0cb" 14, .evaluate "3" 16, .lastExpression "3",
          .evaluate "3" 17] ∧
      ∃ (i : Nat) (text : String), (documentLines sampleDocument)[i]? = some text ∧
        sampleGroup.countedLine 2 = 10 + 1 + (i : Int) + 1 := by
  have hextract : extract .moduledoc sampleDocument 10 = .ok [sampleGroup] := by decide +kernel
  have hrun : (sampleGroup.run sampleEvaluator).run.run [] =
      (.ok [.str "1", .str "a\x0cb", .str "3"],
        [.evaluate "1" 11, .lastExpression "1", .evaluate "1" 12, .evaluate "x" 13,
          .lastExpression "x", .evaluate "a\x0cb" 14, .evaluate "3" 16, .lastExpression "3",
          .evaluate "3" 17]) := rfl
  obtain ⟨hcalls, margin, before, places, -, hplaces⟩ :=
    countedLine_eq_prompt_iff hextract List.mem_cons_self
  obtain ⟨i, first, -, -, -, hline, hcounted, -⟩ := hplaces 2 ⟨["3"], "3", "\niex> 3\n3"⟩ rfl
  have hdrift : sampleGroup.drift 2 = 1 := by decide +kernel
  rw [hdrift] at hcounted
  refine ⟨hextract, ?_, i, first.line, hline, hcounted⟩
  rw [hcalls sampleEvaluator [] _ _ hrun]
  rfl

/-- The prompt of the second example stands on line 3, and its source is evaluated at line 4. -/
theorem prompt_below_form_feed :
    extract .moduledoc "iex> 1\na\x0cb\niex> 2\n2" 0 =
        .ok [⟨1, .moduledoc, [⟨["1"], "a\x0cb", "\niex> 1\na\x0cb"⟩,
          ⟨["2"], "2", "\niex> 2\n2"⟩]⟩] ∧
      (Group.run (TableEvaluator.ofTable {} [("a\x0cb", .value (.str "1") none)])
          ⟨1, .moduledoc, [⟨["1"], "a\x0cb", "\niex> 1\na\x0cb"⟩,
            ⟨["2"], "2", "\niex> 2\n2"⟩]⟩).run.run [] =
        (.ok [.str "1", .str "2"],
          [.evaluate "1" 1, .lastExpression "1", .evaluate "a\x0cb" 2, .evaluate "2" 4,
            .lastExpression "2", .evaluate "2" 5]) ∧
      (documentLines "iex> 1\na\x0cb\niex> 2\n2")[2]? = some "iex> 2" := by
  refine ⟨by decide +kernel, rfl, by decide +kernel⟩

end DocExamples.Transcript
