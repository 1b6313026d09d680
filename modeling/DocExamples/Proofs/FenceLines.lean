import DocExamples.Proofs.GroupPlaces
import Mathlib.Data.List.Nodup

/-!
# Fences and margins

A fence ends a group, but it is looked for behind the margin, while a fence can stand in any column.
Among output lines the margin may cut into the marks of a fence in front of it, and behind the
margin a fence that stands further right is no fence.  The main statement is that such a line
becomes part of an expected result whenever a group is open in front of it, and that no other fence
does (`fence_is_answer_iff`).
-/

namespace DocExamples.Transcript

open Text

/-! ### Lines of open groups -/

/-- A group is open behind the line, where `inside` says whether one is open in front of it. -/
def leavesOpen (inside : Bool) (line : SourceLine) : Bool :=
  !isTerminator line.text && (inside || isOpening line.text)

/-- A group is open behind the lines. -/
def isOpenBehind (lines : List SourceLine) : Bool := lines.foldl leavesOpen false

/-- The lines that are taken into groups. -/
def takenFrom (inside : Bool) : List SourceLine → List SourceLine
  | [] => []
  | line :: rest =>
    if leavesOpen inside line then line :: takenFrom true rest else takenFrom false rest

/-- The lines that become expected results. -/
def answerLines (lines : List SourceLine) : List SourceLine :=
  (takenFrom false lines).filter (!isPromptLine ·)

/-- The lines of the expected results of all examples, in order. -/
def answersOf (groups : List Group) : List String :=
  groups.flatMap fun g => g.examples.flatMap (·.answers)

theorem takenFrom_cons (inside : Bool) (line : SourceLine) (rest : List SourceLine) :
    takenFrom inside (line :: rest) =
      (if leavesOpen inside line then [line] else []) ++
        takenFrom (leavesOpen inside line) rest := by
  rw [takenFrom]
  cases leavesOpen inside line <;> rfl

theorem takenFrom_append (inside : Bool) (before after : List SourceLine) :
    takenFrom inside (before ++ after) =
      takenFrom inside before ++ takenFrom (before.foldl leavesOpen inside) after := by
  induction before generalizing inside with
  | nil => rfl
  | cons line rest ih =>
    rw [List.cons_append, takenFrom_cons, takenFrom_cons, ih, List.append_assoc, List.foldl_cons]

theorem takenFrom_sublist (inside : Bool) (lines : List SourceLine) :
    (takenFrom inside lines).Sublist lines := by
  induction lines generalizing inside with
  | nil => exact List.Sublist.refl _
  | cons line rest ih =>
    rw [takenFrom]
    split
    · exact (ih true).cons_cons line
    · exact (ih false).cons line

theorem takenFrom_true {lines : List SourceLine} (h : ∀ l ∈ lines, isTerminator l.text = false) :
    takenFrom true lines = lines := by
  induction lines with
  | nil => rfl
  | cons line rest ih =>
    obtain ⟨hline, hrest⟩ := List.forall_mem_cons.mp h
    have hopen : leavesOpen true line = true := by rw [leavesOpen, hline]; rfl
    rw [takenFrom, if_pos hopen, ih hrest]

theorem takenFrom_false {lines : List SourceLine} (h : ∀ l ∈ lines, isTerminator l.text = false) :
    takenFrom false lines = lines.dropWhile (!isOpening ·.text) := by
  induction lines with
  | nil => rfl
  | cons line rest ih =>
    obtain ⟨hline, hrest⟩ := List.forall_mem_cons.mp h
    have hopen : leavesOpen false line = isOpening line.text := by rw [leavesOpen, hline]; rfl
    rw [takenFrom, hopen, List.dropWhile_cons]
    cases isOpening line.text with
    | true => exact congrArg (line :: ·) (takenFrom_true hrest)
    | false => exact ih hrest

theorem mem_takenFrom_iff {before after : List SourceLine} {line : SourceLine}
    (hbefore : line ∉ before) (hafter : line ∉ after) :
    line ∈ takenFrom false (before ++ line :: after) ↔
      leavesOpen (isOpenBehind before) line = true := by
  -- What is taken from the lines around it cannot be the line itself.
  have hfront : line ∉ takenFrom false before :=
    fun hmem => hbefore ((takenFrom_sublist _ _).subset hmem)
  have hback : line ∉ takenFrom (leavesOpen (isOpenBehind before) line) after :=
    fun hmem => hafter ((takenFrom_sublist _ _).subset hmem)
  rw [takenFrom_append, ← isOpenBehind, takenFrom_cons, List.mem_append, List.mem_append,
    or_iff_right hfront, or_iff_left hback]
  cases leavesOpen (isOpenBehind before) line <;> simp

theorem answersOf_groupOf {identifier : Identifier} {segment : List SourceLine}
    (hsegment : ∀ l ∈ segment, isTerminator l.text = false)
    (hfeeds : ∀ l ∈ segment, '\n' ∉ l.text.toList) :
    answersOf (groupOf identifier segment).toList = (answerLines segment).map (·.text) := by
  rw [answerLines, takenFrom_false hsegment, groupOf]
  split
  · next hnone =>
    rw [hnone]
    rfl
  · next first rest hfirst =>
    have hsuffix : first :: rest <:+ segment := hfirst ▸ List.dropWhile_suffix _
    have hflatten := flatten_cutExamples [first] rest
    rw [List.singleton_append] at hflatten
    have hanswers : ∀ lines ∈ cutExamples [first] rest,
        (exampleOf lines).answers = (lines.filter (!isPromptLine ·)).map (·.text) := by
      intro lines hlines
      have hmem : ∀ l ∈ lines, l ∈ segment := fun l hl =>
        hsuffix.subset (hflatten ▸ List.mem_flatten_of_mem hlines hl)
      exact answers_exampleOf (fun l hl => hsegment l (hmem l hl)) fun l hl => hfeeds l (hmem l hl)
    -- Cutting the lines into examples loses none of them, and so no answer is lost either.
    rw [hfirst, ← hflatten, List.filter_flatten, List.map_flatten, List.map_map,
      Option.toList_some, answersOf, List.flatMap_singleton, List.flatMap_def, List.map_map]
    exact congrArg List.flatten (List.map_congr_left hanswers)

/-- The expected results of a transcript are made of its answer lines. -/
theorem answersOf_groupsOf {identifier : Identifier} {lines : List SourceLine}
    (hfeeds : ∀ l ∈ lines, '\n' ∉ l.text.toList) :
    answersOf (groupsOf identifier lines) = (answerLines lines).map (·.text) := by
  induction lines using segment_induction with
  | last segment hsegment =>
    rw [groupsOf_segment hsegment, answersOf_groupOf hsegment hfeeds]
  | step segment line rest hsegment hline ih =>
    obtain ⟨hfront, hback⟩ := List.forall_mem_append.mp hfeeds
    have hclosed : leavesOpen (isOpenBehind segment) line = false := by
      rw [leavesOpen, hline]
      rfl
    have hlines : answerLines (segment ++ line :: rest) =
        answerLines segment ++ answerLines rest := by
      rw [answerLines, takenFrom_append, ← isOpenBehind, takenFrom_cons, hclosed,
        List.filter_append]
      rfl
    rw [groupsOf_append identifier segment rest hline, hlines, List.map_append,
      ← ih (List.forall_mem_cons.mp hback).2, ← answersOf_groupOf hsegment hfront,
      ← groupsOf_segment hsegment]
    exact List.flatMap_append

theorem isTerminator_unnumbered (l : SourceLine) :
    isTerminator (unnumbered l).text = isTerminator l.text := by
  cases hdrop : Prompt.dropNumber? l.text with
  | none => rw [unnumbered, hdrop, Option.getD_none]
  | some text =>
    have hplain : isTerminator text = false := by
      have hdropped : Prompt.dropNumber l.number l.text = .ok text := by
        rw [Prompt.dropNumber, hdrop]
      have hprompt : isPromptLine ⟨text, l.number⟩ = true := by
        rw [isPromptLine, Bool.or_eq_true]
        exact Prompt.startsWith_of_dropNumber hdropped
      exact not_terminator_of_isPromptLine hprompt
    have hnumber : Prompt.hasNumber l.text = true := by
      rw [Prompt.dropNumber?, Option.ite_none_right_eq_some] at hdrop
      exact hdrop.1
    have hnumbered : isTerminator l.text = false := by
      simp only [Prompt.hasNumber, startsWith, Bool.or_eq_true, List.isPrefixOf_iff_prefix]
        at hnumber
      rcases hnumber with ⟨more, hmore⟩ | ⟨more, hmore⟩ <;>
        simp [isTerminator, isFence, startsWith, ← hmore, List.isPrefixOf,
          ← String.toList_eq_nil_iff]
    rw [unnumbered, hdrop, Option.getD_some, hplain, hnumbered]

end DocExamples.Transcript

namespace DocExamples.Margin

open Text Transducer Transcript

/-! ### Fences behind their margin -/

/-- The line is a fence in some column. -/
def Visit.isFence (v : Visit) : Bool := Transcript.isFence (trimStart v.line)

/-- The line stands among output lines, and what stands behind the margin ends no group. -/
def Visit.losesFence (v : Visit) : Bool :=
  match v.state with
  | .output margin => !isTerminator (dropChars margin v.line)
  | _ => false

theorem not_opens_of_isFence {s : String} (h : Transcript.isFence s = true) :
    Prompt.opens s = false := by
  simp only [Transcript.isFence, startsWith, Bool.or_eq_true, List.isPrefixOf_iff_prefix] at h
  rcases h with ⟨more, hmore⟩ | ⟨more, hmore⟩ <;>
    simp [Prompt.opens, startsWith, ← hmore, List.isPrefixOf]

/-- A fence that is not lost ends a group or stands outside of blocks. -/
theorem Reads.isTerminator_plain {s after : State} {line : String} {n : Int} {cut : Option String}
    (h : Reads s line cut after) (hfence : (Visit.mk s line n).isFence = true) :
    isTerminator (Visit.mk s line n).plain.text = !(Visit.mk s line n).losesFence := by
  have hno := not_opens_of_isFence hfence
  have hplain : (Visit.mk s line n).isInBlock = true →
      isTerminator (Visit.mk s line n).plain.text =
        isTerminator (Visit.mk s line n).cut.text := by
    intro hblock
    rw [plain_of_isInBlock hblock, isTerminator_unnumbered]
  change Prompt.opens (trimStart line) = false at hno
  cases h with
  | prose =>
    have hblock : (Visit.mk .prose line n).isInBlock = false := hno
    rw [plain_of_not_isInBlock hblock]
    rfl
  | opening hopens | nextPrompt _ hopens =>
    rw [hno] at hopens
    cases hopens
  | @behindPrompt _ margin hline =>
    rw [hplain rfl]
    change isTerminator (dropChars margin line) = true
    -- Directly behind a prompt a fence has to stand at the margin.
    rcases hline with hempty | hline
    · rw [Visit.isFence, hempty] at hfence
      cases hfence
    · change Transcript.isFence (trimStart line) = true at hfence
      rw [← hline, isTerminator, hfence, Bool.or_true]
  | blank | output => rw [hplain rfl, Visit.losesFence, Bool.not_not]; rfl

end DocExamples.Margin

namespace DocExamples.Transcript

open Text Transducer Margin

section Documents

variable {identifier : Identifier} {doc : String} {line : Int} {groups : List Group}

theorem nodup_plain (h : extract identifier doc line = .ok groups) :
    ((documentVisits doc line).map (·.plain)).Nodup := by
  have hnodup := nodup_number (line + 1) (documentLines doc)
  rw [← map_documentVisits h, List.map_map] at hnodup
  refine List.Nodup.of_map (·.number) ?_
  rw [List.map_map]
  have hnumbers : (SourceLine.number ∘ Visit.plain) =
      (Prod.snd ∘ fun v : Visit => (v.line, v.number)) := funext plain_number
  rw [hnumbers]
  exact hnodup

/-- **A fence becomes part of an expected result only where the margin cuts it.**  The expected
results of the groups are made of the answer lines of the document.  A fence is one of them exactly
if a group is open in front of it, it stands among output lines, and behind the margin it is no
longer a fence, and neither empty nor a prompt. -/
theorem fence_is_answer_iff (h : extract identifier doc line = .ok groups) :
    answersOf groups =
        (answerLines ((documentVisits doc line).map (·.plain))).map (·.text) ∧
      ∀ before v after, documentVisits doc line = before ++ v :: after → v.isFence = true →
        (v.plain ∈ answerLines ((documentVisits doc line).map (·.plain)) ↔
          v.losesFence = true ∧ isOpenBehind (before.map (·.plain)) = true ∧
            isPromptLine v.plain = false) := by
  refine ⟨?_, ?_⟩
  · rw [eq_groupsOf_visits h]
    exact answersOf_groupsOf (newline_not_mem_documentVisits h)
  · intro before v after hvisits hfence
    have hnodup := nodup_plain h
    rw [hvisits, List.map_append, List.map_cons] at hnodup ⊢
    obtain ⟨-, hback, hapart⟩ := List.nodup_append.mp hnodup
    have hbefore : v.plain ∉ before.map (·.plain) :=
      fun hmem => hapart _ hmem _ List.mem_cons_self rfl
    have hafter := (List.nodup_cons.mp hback).1
    have hmem : v ∈ documentVisits doc line := by
      rw [hvisits]
      exact List.mem_append_right _ List.mem_cons_self
    obtain ⟨cut, next, hreads⟩ := reads_of_mem_documentVisits h v hmem
    have hterminator : isTerminator v.plain.text = !v.losesFence :=
      hreads.isTerminator_plain hfence
    rw [answerLines, List.mem_filter, mem_takenFrom_iff hbefore hafter, leavesOpen, hterminator,
      Bool.not_not, Bool.not_eq_true', Bool.and_eq_true, and_assoc]
    refine and_congr_right fun _ => and_congr_left fun hprompt => ?_
    -- A line without a prompt opens no group by itself.
    have hopening : isOpening v.plain.text = false := (Bool.or_eq_false_iff.mp hprompt).1
    rw [hopening, Bool.or_false]

end Documents

/-- The fence at the margin ends a group, and of the one in front of it a mark is left over. -/
theorem fences_behind_margin :
    extract .moduledoc "  iex> 1\n  1\n  ```\n  iex> 2\n  2\n```" 0 =
        .ok [⟨1, .moduledoc, [⟨["1"], "1", "\niex> 1\n1"⟩]⟩,
          ⟨4, .moduledoc, [⟨["2"], "2\n`", "\niex> 2\n2\n`"⟩]⟩] ∧
      ⟨"```", 3⟩ ∉ answerLines
        ((documentVisits "  iex> 1\n  1\n  ```\n  iex> 2\n  2\n```" 0).map (·.plain)) ∧
      ⟨"`", 6⟩ ∈ answerLines
        ((documentVisits "  iex> 1\n  1\n  ```\n  iex> 2\n  2\n```" 0).map (·.plain)) := by
  have hextract : extract .moduledoc "  iex> 1\n  1\n  ```\n  iex> 2\n  2\n```" 0 =
      .ok [⟨1, .moduledoc, [⟨["1"], "1", "\niex> 1\n1"⟩]⟩,
        ⟨4, .moduledoc, [⟨["2"], "2\n`", "\niex> 2\n2\n`"⟩]⟩] := by decide +kernel
  have hvisits : documentVisits "  iex> 1\n  1\n  ```\n  iex> 2\n  2\n```" 0 =
      [⟨.prose, "  iex> 1", 1⟩, ⟨.afterPrompt 2, "  1", 2⟩, ⟨.output 2, "  ```", 3⟩,
        ⟨.output 2, "  iex> 2", 4⟩, ⟨.afterPrompt 2, "  2", 5⟩, ⟨.output 2, "```", 6⟩] := by
    decide +kernel
  have hiff := (fence_is_answer_iff hextract).2
  refine ⟨hextract, ?_, ?_⟩
  · have hkept := hiff [⟨.prose, "  iex> 1", 1⟩, ⟨.afterPrompt 2, "  1", 2⟩]
      ⟨.output 2, "  ```", 3⟩ _ hvisits (by decide +kernel)
    intro hmem
    have hlost := (hkept.mp hmem).1
    revert hlost
    decide +kernel
  · have hlost := hiff [⟨.prose, "  iex> 1", 1⟩, ⟨.afterPrompt 2, "  1", 2⟩,
      ⟨.output 2, "  ```", 3⟩, ⟨.output 2, "  iex> 2", 4⟩, ⟨.afterPrompt 2, "  2", 5⟩]
      ⟨.output 2, "```", 6⟩ [] hvisits (by decide +kernel)
    refine hlost.mpr ⟨?_, ?_, ?_⟩ <;> decide +kernel

theorem fence_cut_short :
    extract .moduledoc "  iex> 1\n  1\n```" 0 =
        .ok [⟨1, .moduledoc, [⟨["1"], "1\n`", "\niex> 1\n1\n`"⟩]⟩] ∧
      ∃ v ∈ documentVisits "  iex> 1\n  1\n```" 0, v.isFence = true ∧
        v.plain ∈ answerLines ((documentVisits "  iex> 1\n  1\n```" 0).map (·.plain)) := by
  constructor <;> decide +kernel

end DocExamples.Transcript
