import DocExamples.Proofs.DocumentLines
import DocExamples.Proofs.MarginLines
import DocExamples.Proofs.TranscriptReading

/-!
# Documents with a gap between them

Two empty lines separate what stands in front of them from what stands behind.  The reader of
margins is outside of every block behind them, and the transcript that it has given out by then
ends at an empty line or is empty, so that no group goes across.  Each of the three ways to fail
is therefore a way in which one of the two texts fails alone (`extract_gap`).
-/

namespace DocExamples.Transcript

open Text Transducer Margin

/-! ### Transcripts that end at an empty line -/

theorem isTerminator_empty : isTerminator "" = true := rfl

section Transcripts

variable (identifier : Identifier) {before gap : List SourceLine}

theorem groupsOf_append_of_endsBlank (after : List SourceLine) (h : EndsBlank before) :
    groupsOf identifier (before ++ after) =
      groupsOf identifier before ++ groupsOf identifier after := by
  rcases h with rfl | ⟨front, n, rfl⟩
  · rw [groupsOf_nil]
    rfl
  · have hblank : isTerminator (SourceLine.mk "" n).text = true := isTerminator_empty
    rw [List.append_assoc, List.singleton_append, groupsOf_append identifier front after hblank,
      groupsOf_append identifier front [] hblank, groupsOf_nil, List.append_nil]

theorem groupsOf_append_blanks (before : List SourceLine) (h : ∀ l ∈ gap, l.text = "") :
    groupsOf identifier (before ++ gap) = groupsOf identifier before := by
  induction gap generalizing before with
  | nil => rw [List.append_nil]
  | cons l gap ih =>
    have hblank : isTerminator l.text = true := by rw [h l (by simp), isTerminator_empty]
    have hgap := ih [] fun l' hl' => h l' (by simp [hl'])
    rw [groupsOf_append identifier before gap hblank]
    simpa [groupsOf_nil] using hgap

theorem mapM_plainLine_blanks (h : ∀ l ∈ gap, l.text = "") : gap.mapM plainLine = .ok gap := by
  induction gap with
  | nil => rfl
  | cons l gap ih =>
    obtain ⟨text, n⟩ := l
    obtain rfl : text = "" := h ⟨text, n⟩ (by simp)
    rw [List.mapM_cons, ih fun l hl => h l (by simp [hl])]
    rfl

theorem mapM_plainLine_append {plain : List SourceLine} (after : List SourceLine)
    (h : before.mapM plainLine = .ok plain) :
    (before ++ after).mapM plainLine = (after.mapM plainLine).map (plain ++ ·) := by
  rw [List.mapM_append, h]
  rfl

theorem endsBlank_plain {lines plain : List SourceLine} (hlines : EndsBlank lines)
    (h : lines.mapM plainLine = .ok plain) : EndsBlank plain := by
  rcases hlines with rfl | ⟨front, n, rfl⟩
  · cases h
    exact Or.inl rfl
  · have hblank : [SourceLine.mk "" n].mapM plainLine = .ok [SourceLine.mk "" n] := rfl
    rw [List.mapM_append, hblank] at h
    cases hfront : front.mapM plainLine with
    | error e =>
      rw [hfront] at h
      cases h
    | ok first =>
      rw [hfront] at h
      cases h
      exact Or.inr ⟨first, n, rfl⟩

end Transcripts

/-! ### Joined results -/

/-- The third result is what the first two make together: it is a success exactly if both are, and
a failure it can only have from one of them. -/
def Joins {α : Type} (first second joined : Except Defect (List α)) : Prop :=
  (∀ items, joined = .ok items ↔
    ∃ before after, first = .ok before ∧ second = .ok after ∧ items = before ++ after) ∧
  ∀ d, joined = .error d → first = .error d ∨ second = .error d

section Joins

variable {α : Type} {first second joined : Except Defect (List α)}

theorem Joins.of_ok {before after : List α} (hfirst : first = .ok before)
    (hsecond : second = .ok after) (h : joined = .ok (before ++ after)) :
    Joins first second joined := by
  subst hfirst hsecond h
  refine ⟨fun items => ⟨?_, ?_⟩, ?_⟩
  · rintro ⟨⟩
    exact ⟨before, after, rfl, rfl, rfl⟩
  · rintro ⟨_, _, ⟨⟩, ⟨⟩, rfl⟩
    rfl
  · rintro d ⟨⟩

theorem Joins.of_first {d : Defect} (hfirst : first = .error d) (h : joined = .error d) :
    Joins first second joined := by
  subst hfirst h
  refine ⟨fun items => ⟨?_, ?_⟩, ?_⟩
  · rintro ⟨⟩
  · rintro ⟨_, _, ⟨⟩, -⟩
  · rintro d ⟨⟩
    exact Or.inl rfl

theorem Joins.of_second {d : Defect} (hsecond : second = .error d) (h : joined = .error d) :
    Joins first second joined := by
  subst hsecond h
  refine ⟨fun items => ⟨?_, ?_⟩, ?_⟩
  · rintro ⟨⟩
  · rintro ⟨_, _, -, ⟨⟩, -⟩
  · rintro d ⟨⟩
    exact Or.inr rfl

end Joins

/-! ### The gap -/

theorem joins_checkGroup (first second : List Group) :
    Joins (do first.forM checkGroup; return first) (do second.forM checkGroup; return second)
      (do (first ++ second).forM checkGroup; return first ++ second) := by
  have happend : (first ++ second).forM checkGroup =
      (first.forM checkGroup >>= fun _ => second.forM checkGroup) := List.forM_append
  rw [happend]
  cases hfirst : first.forM checkGroup with
  | error d => exact .of_first rfl rfl
  | ok _ =>
    cases hsecond : second.forM checkGroup with
    | error d => exact .of_second rfl rfl
    | ok _ => exact .of_ok rfl rfl rfl

/-- Scanning goes through at the end of a transcript that ends at an empty line. -/
theorem scan_gap (identifier : Identifier) {before gap : List SourceLine}
    (after : List SourceLine) (hgap : ∀ l ∈ gap, l.text = "") (hends : EndsBlank (before ++ gap)) :
    Joins (scan identifier before) (scan identifier after)
      (scan identifier (before ++ gap ++ after)) := by
  simp only [scan_eq]
  -- An unclosed number in front of the gap is found first, whatever stands behind.
  cases hbefore : before.mapM plainLine with
  | error d =>
    refine .of_first rfl ?_
    rw [List.mapM_append, List.mapM_append, hbefore]
    rfl
  | ok plain =>
    have hfront : (before ++ gap).mapM plainLine = .ok (plain ++ gap) := by
      rw [mapM_plainLine_append gap hbefore, mapM_plainLine_blanks hgap]
      rfl
    rw [mapM_plainLine_append after hfront]
    cases hafter : after.mapM plainLine with
    | error d => exact .of_second rfl rfl
    | ok plainAfter =>
      have hgroups : groupsOf identifier (plain ++ gap ++ plainAfter) =
          groupsOf identifier plain ++ groupsOf identifier plainAfter := by
        rw [groupsOf_append_of_endsBlank identifier plainAfter (endsBlank_plain hends hfront),
          groupsOf_append_blanks identifier plain hgap]
      have hjoins := joins_checkGroup (groupsOf identifier plain) (groupsOf identifier plainAfter)
      rw [← hgroups] at hjoins
      exact hjoins

/-- Two empty lines between lines join what is read in front of them and behind them. -/
theorem joins_gap (identifier : Identifier) (before after : List String) (start : Int) :
    Joins (Margin.normalize before start >>= scan identifier)
      (Margin.normalize after (start + before.length + 2) >>= scan identifier)
      (Margin.normalize (before ++ (["", ""] ++ after)) start >>= scan identifier) := by
  rcases Margin.normalize_gap before after start with
    ⟨d, hbefore, hjoined⟩ | ⟨first, gap, hbefore, hgap, hends, hjoined⟩
  · rw [hbefore, hjoined]
    exact .of_first rfl rfl
  · rw [hbefore, hjoined]
    cases Margin.normalize after (start + before.length + 2) with
    | error d => exact .of_second rfl rfl
    | ok second => exact scan_gap identifier second hgap hends

theorem documentLines_gap {before : String} (after : String)
    (h : before.toList.getLast? ≠ some '\r') :
    documentLines (before ++ "\n\n\n" ++ after) =
      documentLines before ++ (["", ""] ++ documentLines after) := by
  have hgap : before ++ "\n\n\n" ++ after =
      before ++ "\n" ++ ("" ++ "\n" ++ ("" ++ "\n" ++ after)) := by
    apply String.toList_inj.mp
    simp
  have hempty : documentLines "" = [""] := rfl
  rw [hgap, documentLines_append _ h, documentLines_append _ (by simp),
    documentLines_append _ (by simp), hempty]
  rfl

/-- **Documents compose across an empty gap.**  Two texts with two empty lines between them give
the groups of the first text and then those of the second, whose lines are counted on; and the
joined text fails only with the defect that one of the two has alone. -/
theorem extract_gap (identifier : Identifier) {before : String} (after : String) (line : Int)
    (h : before.toList.getLast? ≠ some '\r') :
    (∀ groups, extract identifier (before ++ "\n\n\n" ++ after) line = .ok groups ↔
      ∃ first second, extract identifier before line = .ok first ∧
        extract identifier after (line + (documentLines before).length + 2) = .ok second ∧
        groups = first ++ second) ∧
    ∀ d, extract identifier (before ++ "\n\n\n" ++ after) line = .error d →
      extract identifier before line = .error d ∨
        extract identifier after (line + (documentLines before).length + 2) = .error d := by
  have hstart : line + (documentLines before).length + 2 + 1 =
      line + 1 + (documentLines before).length + 2 := by omega
  change Joins (extract identifier before line)
    (extract identifier after (line + (documentLines before).length + 2))
    (extract identifier (before ++ "\n\n\n" ++ after) line)
  simp only [extract, documentLines_gap after h, hstart]
  exact joins_gap identifier (documentLines before) (documentLines after) (line + 1)

/-- The first text ends at a prompt without an answer, and the second has another margin. -/
theorem extract_gap_behind_prompt :
    "  iex> 1\n  1\n  iex> 2".toList.getLast? ≠ some '\r' ∧
    extract .moduledoc ("  iex> 1\n  1\n  iex> 2" ++ "\n\n\n" ++ "iex> 3\n3") 4 =
      .ok [⟨5, .moduledoc, [⟨["1"], "1", "\niex> 1\n1"⟩, ⟨["2"], "", "\niex> 2\n"⟩]⟩,
        ⟨10, .moduledoc, [⟨["3"], "3", "\niex> 3\n3"⟩]⟩] := by
  have hlast : "  iex> 1\n  1\n  iex> 2".toList.getLast? ≠ some '\r' := by decide +kernel
  refine ⟨hlast, ((extract_gap .moduledoc "iex> 3\n3" 4 hlast).1 _).mpr ?_⟩
  refine ⟨[⟨5, .moduledoc, [⟨["1"], "1", "\niex> 1\n1"⟩, ⟨["2"], "", "\niex> 2\n"⟩]⟩],
    [⟨10, .moduledoc, [⟨["3"], "3", "\niex> 3\n3"⟩]⟩], ?_, ?_, rfl⟩
  · decide +kernel
  · decide +kernel

end DocExamples.Transcript
