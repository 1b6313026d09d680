import DocExamples.Proofs.DocumentLines
import DocExamples.Proofs.ExpectedLines
import DocExamples.Proofs.MarginFaults
import DocExamples.Transcript
import Mathlib.Data.List.Forall2

/-!
# Documentation that is indented further

Documentation is often indented as a whole, and empty lines may stay empty then.  The reader of
margins stands further right behind each line, by as much as was put in front, and gives out the
same lines (`agrees_feed`).  So a document gives the same groups wherever it stands; only a line that
is out of place is reported with its new text and margin (`extract_deepened`).
-/

namespace DocExamples.Text

/-! ### Documents from their lines -/

/-- The line without a carriage return at its end. -/
def dropReturn (line : String) : String :=
  if line.toList.getLast? = some '\r' then .ofList line.toList.dropLast else line

theorem documentLines_line_append {line : String} (after : String) (h : '\n' ∉ line.toList) :
    documentLines (line ++ "\n" ++ after) = dropReturn line :: documentLines after := by
  by_cases hreturn : line.toList.getLast? = some '\r'
  · have hline : line.toList = line.toList.dropLast ++ ['\r'] :=
      (List.dropLast_append_getLast? '\r' hreturn).symm
    have hchars : (line ++ "\n" ++ after).toList =
        line.toList.dropLast ++ '\r' :: '\n' :: after.toList := by
      rw [String.toList_append, String.toList_append, hline]
      simp
    have hfront : '\n' ∉ line.toList.dropLast := fun hmem =>
      h ((List.dropLast_sublist _).subset hmem)
    rw [documentLines, hchars, foldCrlf_append_crlf, splitAt_append,
      foldCrlf_of_no_newline hfront, splitAt_of_not_mem hfront, dropReturn, if_pos hreturn]
    rfl
  · rw [documentLines_append after hreturn, documentLines_of_isLine ⟨h, hreturn⟩, dropReturn,
      if_neg hreturn]
    rfl

/-- Line by line related texts have related lines, also where carriage returns are dropped. -/
theorem forall₂_documentLines {R : String → String → Prop} {lines others : List String}
    (h : List.Forall₂ R lines others) (hreturn : ∀ s t, R s t → R (dropReturn s) (dropReturn t))
    (hempty : R "" "") (hlines : ∀ line ∈ lines, '\n' ∉ line.toList)
    (hothers : ∀ line ∈ others, '\n' ∉ line.toList) :
    List.Forall₂ R (documentLines (joinLines lines)) (documentLines (joinLines others)) := by
  induction h with
  | nil => exact .cons hempty .nil
  | @cons s t lines others hst hrest ih =>
    obtain ⟨hs, hlines⟩ := List.forall_mem_cons.mp hlines
    obtain ⟨ht, hothers⟩ := List.forall_mem_cons.mp hothers
    have hmore := ih hlines hothers
    cases hrest with
    | nil =>
      have hone : ∀ line : String, joinLines [line] = line := fun line => by simp [joinLines]
      rw [hone, hone, documentLines_of_not_mem hs, documentLines_of_not_mem ht]
      exact .cons hst .nil
    | @cons s' t' =>
      have hjoin : ∀ (l next : String) (more : List String),
          joinLines (l :: next :: more) = l ++ "\n" ++ joinLines (next :: more) :=
        fun _ _ _ => String.intercalate_cons_cons
      rw [hjoin, hjoin, documentLines_line_append _ hs, documentLines_line_append _ ht]
      exact .cons (hreturn s t hst) hmore

end DocExamples.Text

namespace DocExamples.Margin

open Text Transducer

/-! ### Lines and states further right -/

/-- The line stands behind `lead`, or it is empty and stays so. -/
def Deepens (lead line deeper : String) : Prop := deeper = lead ++ line ∨ line = "" ∧ deeper = ""

/-- The reader in the same place of a text that stands `columns` further right. -/
def State.shift (columns : Nat) : State → State
  | .prose => .prose
  | .prompt margin => .prompt (columns + margin)
  | .afterPrompt margin => .afterPrompt (columns + margin)
  | .output margin => .output (columns + margin)

/-- The results are the same, or both are the failure at one line, which is told as it stands. -/
inductive Agrees {α : Type} (lead : String) : Except Defect α → Except Defect α → Prop where
  | same (result : Except Defect α) : Agrees lead result result
  | misplaced {line deeper : String} (n : Int) (margin : Nat) (h : Deepens lead line deeper) :
      Agrees lead (.error (.indentationMismatch n line margin))
        (.error (.indentationMismatch n deeper (lead.length + margin)))

theorem Agrees.bind {α β : Type} {lead : String} {first second : Except Defect α}
    (h : Agrees lead first second) (f : α → Except Defect β) :
    Agrees lead (first >>= f) (second >>= f) := by
  cases h with
  | same => exact .same _
  | misplaced n margin hline => exact .misplaced n margin hline

theorem Agrees.map {α β : Type} {lead : String} {first second : Except Defect α}
    (h : Agrees lead first second) (f : α → β) : Agrees lead (first.map f) (second.map f) := by
  cases h with
  | same => exact .same _
  | misplaced n margin hline => exact .misplaced n margin hline

theorem Agrees.map_map {α β γ : Type} {lead : String} {first second : Except Defect α}
    (h : Agrees lead first second) {f : α → β} {g : β → γ} {k : α → γ}
    (hk : ∀ a, g (f a) = k a) : Agrees lead ((first.map f).map g) (second.map k) := by
  cases h with
  | same =>
    cases first with
    | error d => exact .same _
    | ok a =>
      have hboth : (Except.ok a : Except Defect α).map k = .ok (g (f a)) := by
        rw [hk]
        rfl
      rw [hboth]
      exact .same _
  | misplaced n margin hline => exact .misplaced n margin hline

theorem Agrees.eq_of_ok {α : Type} {lead : String} {a : α} {second : Except Defect α}
    (h : Agrees lead (.ok a) second) : second = .ok a := by
  cases h with
  | same => rfl

/-- A failure agrees with a failure at the same line, whatever a success would give. -/
theorem Agrees.error {α : Type} (β : Type) {lead : String} {d : Defect} {second : Except Defect α}
    (h : Agrees lead (.error d) second) :
    ∃ e, second = .error e ∧ e.kind = d.kind ∧ e.line = d.line ∧
      Agrees (α := β) lead (.error d) (.error e) := by
  cases h with
  | same => exact ⟨d, rfl, rfl, rfl, .same _⟩
  | misplaced n margin hline => exact ⟨_, rfl, rfl, rfl, .misplaced n margin hline⟩

theorem Deepens.dropReturn {lead line deeper : String} (hlead : '\r' ∉ lead.toList)
    (h : Deepens lead line deeper) :
    Deepens lead (Text.dropReturn line) (Text.dropReturn deeper) := by
  rcases h with rfl | ⟨rfl, rfl⟩
  · have hlast : (lead ++ line).toList.getLast? = some '\r' ↔
        line.toList.getLast? = some '\r' := by
      rw [String.toList_append, List.getLast?_append]
      cases hline : line.toList.getLast? with
      | none =>
        rw [Option.none_or]
        exact iff_of_false (fun h => hlead (List.mem_of_getLast? h)) (by simp)
      | some c => rw [Option.some_or]
    by_cases hreturn : line.toList.getLast? = some '\r'
    · have hne : line.toList ≠ [] := by
        rintro hnil
        rw [hnil] at hreturn
        cases hreturn
      refine Or.inl ?_
      rw [Text.dropReturn, Text.dropReturn, if_pos hreturn, if_pos (hlast.mpr hreturn),
        String.toList_append, List.dropLast_append_of_ne_nil hne, String.ofList_append,
        String.ofList_toList]
    · refine Or.inl ?_
      rw [Text.dropReturn, Text.dropReturn, if_neg hreturn, if_neg (mt hlast.mp hreturn)]
  · exact Or.inr ⟨rfl, rfl⟩

theorem Deepens.newline_not_mem {lead line deeper : String} (hlead : '\n' ∉ lead.toList)
    (hline : '\n' ∉ line.toList) (h : Deepens lead line deeper) : '\n' ∉ deeper.toList := by
  rcases h with rfl | ⟨-, rfl⟩
  · rw [String.toList_append, List.mem_append]
    exact fun hmem => hmem.elim hlead hline
  · simp

section Lines

variable {lead line deeper : String} (hlead : ∀ c ∈ lead.toList, isBlank c = true)
  (h : Deepens lead line deeper)

include h in
theorem Deepens.dropChars (margin : Nat) :
    dropChars (lead.length + margin) deeper = dropChars margin line := by
  rcases h with rfl | ⟨rfl, rfl⟩
  · exact dropChars_append lead line margin
  · simp [Text.dropChars]

include hlead h

theorem Deepens.trimStart : trimStart deeper = trimStart line := by
  rcases h with rfl | ⟨rfl, rfl⟩
  · exact trimStart_append hlead line
  · rfl

theorem Deepens.leadingBlanks (hopens : Prompt.opens (Text.trimStart line) = true) :
    leadingBlanks deeper = lead.length + leadingBlanks line := by
  rcases h with rfl | ⟨rfl, rfl⟩
  · exact leadingBlanks_append hlead line
  · cases hopens

theorem agrees_cutExactly (margin : Nat) (n : Int) :
    Agrees lead (cutExactly margin n line) (cutExactly (lead.length + margin) n deeper) := by
  simp only [cutExactly, h.trimStart hlead, h.dropChars]
  split
  · exact .misplaced n margin h
  · exact .same _

/-- What is read of a line stays the same, and the reader stands further right behind it. -/
theorem agrees_settle {s : State} (hs : s.IsBetween) (n : Int) :
    Agrees lead ((reader.settle s (line, n)).map fun p => (p.1, p.2.shift lead.length))
      (reader.settle (s.shift lead.length) (deeper, n)) := by
  cases s with
  | prompt margin => exact (hs margin rfl).elim
  | prose =>
    rw [State.shift]
    cases hopens : Prompt.opens (trimStart line) with
    | true =>
      have hdeeper : Prompt.opens (trimStart deeper) = true := by rw [h.trimStart hlead, hopens]
      rw [settle_prose_of_opens n hopens, settle_prose_of_opens n hdeeper, h.trimStart hlead,
        h.leadingBlanks hlead hopens]
      exact .same _
    | false =>
      have hdeeper : Prompt.opens (trimStart deeper) = false := by rw [h.trimStart hlead, hopens]
      rw [settle_prose_of_text n hopens, settle_prose_of_text n hdeeper]
      exact .same _
  | afterPrompt margin =>
    rw [State.shift, settle_afterPrompt, settle_afterPrompt]
    refine (agrees_cutExactly hlead h margin n).map_map fun cut => ?_
    cases Prompt.isPrompt cut <;> rfl
  | output margin =>
    rw [State.shift]
    by_cases hempty : dropChars margin line = ""
    · have hdeeper : dropChars (lead.length + margin) deeper = "" := by rw [h.dropChars, hempty]
      rw [settle_output_of_empty margin n hempty, settle_output_of_empty _ n hdeeper]
      exact .same _
    · have hdeeper : dropChars (lead.length + margin) deeper ≠ "" := by rwa [h.dropChars]
      cases hopens : Prompt.opens (trimStart line) with
      | true =>
        have hprompt : Prompt.opens (trimStart deeper) = true := by
          rw [h.trimStart hlead, hopens]
        rw [settle_output_of_opens margin n hempty hopens,
          settle_output_of_opens _ n hdeeper hprompt]
        exact (agrees_cutExactly hlead h margin n).map_map fun cut => rfl
      | false =>
        have htext : Prompt.opens (trimStart deeper) = false := by rw [h.trimStart hlead, hopens]
        rw [settle_output_of_text margin n hempty hopens, settle_output_of_text _ n hdeeper htext,
          h.dropChars]
        exact .same _

end Lines

/-! ### Whole texts -/

section Texts

variable {lead : String} (hlead : ∀ c ∈ lead.toList, isBlank c = true)

include hlead

theorem agrees_feed {s : State} (hs : s.IsBetween) (start : Int) {lines deeper : List String}
    (h : List.Forall₂ (Deepens lead) lines deeper) :
    Agrees lead
      ((feed reader.settle s (number start lines)).map fun p => (p.1, p.2.shift lead.length))
      (feed reader.settle (s.shift lead.length) (number start deeper)) := by
  induction h generalizing s start with
  | nil => exact .same _
  | @cons line other lines deeper hline _ ih =>
    have hfirst := agrees_settle hlead hline hs start
    rw [number_cons, number_cons]
    cases hstep : reader.settle s (line, start) with
    | error d =>
      rw [hstep] at hfirst
      obtain ⟨e, hother, -, -, hagrees⟩ := hfirst.error (List SourceLine × State)
      rw [feed_cons_of_error _ hstep, feed_cons_of_error _ hother]
      exact hagrees
    | ok p =>
      obtain ⟨out, after⟩ := p
      obtain ⟨cut, hreads, -⟩ := reads_of_settle hs hstep
      rw [hstep] at hfirst
      rw [feed_cons_of_ok _ hstep, feed_cons_of_ok _ hfirst.eq_of_ok]
      have hrest := (ih hreads.isBetween (start + 1)).map fun q => (out ++ q.1, q.2)
      cases hfeed : feed reader.settle after (number (start + 1) lines) with
      | error d =>
        rw [hfeed] at hrest
        exact hrest
      | ok q =>
        rw [hfeed] at hrest
        exact hrest

theorem agrees_normalize (start : Int) {lines deeper : List String}
    (h : List.Forall₂ (Deepens lead) lines deeper) :
    Agrees lead (normalize lines start) (normalize deeper start) := by
  have hfeed := (agrees_feed hlead isBetween_prose start h).map (·.1)
  rw [normalize_eq_feed, normalize_eq_feed]
  cases hlines : feed reader.settle .prose (number start lines) with
  | error d =>
    rw [hlines] at hfeed
    exact hfeed
  | ok p =>
    rw [hlines] at hfeed
    exact hfeed

end Texts

end DocExamples.Margin

namespace DocExamples.Transcript

open Text Margin

/-! ### Documents -/

theorem agrees_extract {lead : String} (hlead : ∀ c ∈ lead.toList, isBlank c = true)
    (identifier : Identifier) {doc deeper : String} (line : Int)
    (h : List.Forall₂ (Deepens lead) (documentLines doc) (documentLines deeper)) :
    Agrees lead (extract identifier doc line) (extract identifier deeper line) :=
  (agrees_normalize hlead (line + 1) h).bind (scan identifier)

/-- **Examples do not depend on how deep their document stands.**  White space is put in front of
every line, and empty lines may be left alone.  Then the reader of margins gives out the same lines,
and a document the same groups, or both fail, for the same reason and at the same line.  The lines
of a document may be those it is read by, or those it was joined from, with carriage returns at
their ends. -/
theorem extract_deepened {lead : String} (hlead : ∀ c ∈ lead.toList, c = ' ' ∨ c = '\t') :
    (∀ lines deeper start, List.Forall₂ (Deepens lead) lines deeper →
      Agrees lead (normalize lines start) (normalize deeper start)) ∧
    (∀ identifier doc deeper line,
      List.Forall₂ (Deepens lead) (documentLines doc) (documentLines deeper) →
      Agrees lead (extract identifier doc line) (extract identifier deeper line)) ∧
    ∀ identifier lines deeper line, (∀ l ∈ lines, '\n' ∉ l.toList) →
      List.Forall₂ (Deepens lead) lines deeper →
      Agrees lead (extract identifier (joinLines lines) line)
        (extract identifier (joinLines deeper) line) := by
  have hblank : ∀ c ∈ lead.toList, isBlank c = true := by
    intro c hc
    rcases hlead c hc with rfl | rfl <;> rfl
  have hother : ∀ c, c ≠ ' ' → c ≠ '\t' → c ∉ lead.toList := by
    intro c hspace htab hc
    exact (hlead c hc).elim hspace htab
  refine ⟨fun lines deeper start h => agrees_normalize hblank start h,
    fun identifier doc deeper line h => agrees_extract hblank identifier line h, ?_⟩
  intro identifier lines deeper line hlines h
  have hreturn : '\r' ∉ lead.toList := hother _ (by decide) (by decide)
  have hnewline : '\n' ∉ lead.toList := hother _ (by decide) (by decide)
  have hdeeper : ∀ l ∈ deeper, '\n' ∉ l.toList := by
    intro l hl
    obtain ⟨i, hi, rfl⟩ := List.getElem_of_mem hl
    have hi' : i < lines.length := h.length_eq ▸ hi
    exact (h.get hi' hi).newline_not_mem hnewline (hlines _ (List.getElem_mem hi'))
  exact agrees_extract hblank identifier line
    (forall₂_documentLines h (fun _ _ hst => hst.dropReturn hreturn) (Or.inr ⟨rfl, rfl⟩)
      hlines hdeeper)

/-- A block that is cut short, and a line that is out of place, stay so behind a tab and a space. -/
theorem extract_deepened_sample :
    (∀ c ∈ "\t ".toList, c = ' ' ∨ c = '\t') ∧
    normalize ["\t   iex> 1", "\t   1", "\t xyz", "", "\t iex> 2", "\t "] 5 =
      .ok [⟨"iex> 1", 5⟩, ⟨"1", 6⟩, ⟨"z", 7⟩, ⟨"", 8⟩, ⟨"iex> 2", 9⟩, ⟨"", 10⟩] ∧
    ∃ d, extract .moduledoc (joinLines ["\t   iex> 1\r", "\t 1"]) 0 = .error d ∧
      d.kind = .indentationMismatch ∧ d.line = some 2 := by
  have hlead : ∀ c ∈ "\t ".toList, c = ' ' ∨ c = '\t' := by
    intro c hc
    simpa [or_comm] using hc
  obtain ⟨hnormalize, -, hextract⟩ := extract_deepened hlead
  refine ⟨hlead, ?_, ?_⟩
  · have hlines : normalize ["  iex> 1", "  1", "xyz", "", "iex> 2", ""] 5 =
        .ok [⟨"iex> 1", 5⟩, ⟨"1", 6⟩, ⟨"z", 7⟩, ⟨"", 8⟩, ⟨"iex> 2", 9⟩, ⟨"", 10⟩] := by
      decide +kernel
    have hdeeper := hnormalize ["  iex> 1", "  1", "xyz", "", "iex> 2", ""]
      ["\t   iex> 1", "\t   1", "\t xyz", "", "\t iex> 2", "\t "] 5
      (.cons (.inl rfl) (.cons (.inl rfl) (.cons (.inl rfl) (.cons (.inr ⟨rfl, rfl⟩)
        (.cons (.inl rfl) (.cons (.inl rfl) .nil))))))
    rw [hlines] at hdeeper
    exact hdeeper.eq_of_ok
  · have hdoc : extract .moduledoc (joinLines ["  iex> 1\r", "1"]) 0 =
        .error (.indentationMismatch 2 "1" 2) := by decide +kernel
    have hdeeper := hextract .moduledoc ["  iex> 1\r", "1"] ["\t   iex> 1\r", "\t 1"] 0
      (by decide +kernel) (.cons (.inl rfl) (.cons (.inl rfl) .nil))
    rw [hdoc] at hdeeper
    obtain ⟨d, hd, hkind, hline, -⟩ := hdeeper.error Unit
    exact ⟨d, hd, hkind, hline⟩

end DocExamples.Transcript
