import DocExamples.Transcript

/-!
# Numbers of prompts

A numbered prompt is read as the plain one, if the mark that closes its number can be found.  The
main statement is that a transcript without unclosed numbers has a plain form (`mapM_plainLine`).
-/

namespace DocExamples.Transcript

open Text

/-! ### Plain lines -/

/-- The line with a plain prompt in place of a numbered one. -/
def plainLine (line : SourceLine) : Except Defect SourceLine := do
  return { line with text := ← Prompt.plain line.number line.text }

theorem isNumbered_of_plainLine {line plain : SourceLine} (h : plainLine line = .ok plain) :
    Prompt.isNumbered plain.text = false := by
  simp only [plainLine, Prompt.plain] at h
  split at h
  · cases hd : Prompt.dropNumber line.number line.text with
    | error e =>
      rw [hd] at h
      cases h
    | ok text =>
      rw [hd] at h
      cases h
      exact Prompt.isNumbered_of_startsWith (Prompt.startsWith_of_dropNumber hd)
  · next hno =>
    cases h
    exact Bool.eq_false_iff.mpr hno

/-! ### Closed numbers -/

/-- The text holds the mark that closes the number of a prompt, behind a number of at least one
character. -/
def ClosesNumber (s : String) : Prop :=
  ∃ before after, s.toList = before ++ ')' :: '>' :: after ∧ 5 ≤ before.length

/-- The line with a plain prompt in place of a numbered one that is closed. -/
def unnumbered (line : SourceLine) : SourceLine :=
  { line with text := (Prompt.dropNumber? line.text).getD line.text }

theorem afterNumber_isSome_iff (cs : List Char) :
    (Prompt.afterNumber cs).isSome = true ↔ ∃ before after, cs = before ++ ')' :: '>' :: after := by
  induction cs with
  | nil => simp [Prompt.afterNumber]
  | cons c rest ih =>
    constructor
    · intro h
      unfold Prompt.afterNumber at h
      split at h
      · next heq => cases heq
      · next after heq => exact ⟨[], after, heq⟩
      · next heq =>
        cases heq
        obtain ⟨before, after, hrest⟩ := ih.mp h
        exact ⟨c :: before, after, by rw [hrest, List.cons_append]⟩
    · rintro ⟨before, after, hcs⟩
      unfold Prompt.afterNumber
      split
      · next heq => cases heq
      · rfl
      · next hno heq =>
        cases heq
        cases before with
        | nil =>
          cases hcs
          exact (hno after rfl rfl).elim
        | cons b before =>
          cases hcs
          exact ih.mpr ⟨before, after, rfl⟩

/-- The first mark is found behind characters that are no part of one. -/
theorem afterNumber_append {digits : List Char} (rest : List Char) (h : ')' ∉ digits) :
    Prompt.afterNumber (digits ++ ')' :: '>' :: rest) = some rest := by
  induction digits with
  | nil => rfl
  | cons c digits ih =>
    have hc : c ≠ ')' := fun heq => h (by simp [heq])
    rw [List.cons_append, Prompt.afterNumber.eq_3]
    · exact ih fun hmem => h (by simp [hmem])
    · rintro rest' rfl -
      exact hc rfl

/-- The text can number a prompt: it has a character, and none of them closes the number. -/
structure IsPromptNumber (number : String) : Prop where
  nonempty : number ≠ ""
  noClosing : ')' ∉ number.toList

/-- The number of a prompt is dropped, and what stands behind the prompt stays as it is. -/
theorem dropNumber?_append {word number : String} (rest : String)
    (hword : word = "iex" ∨ word = "...") (h : IsPromptNumber number) :
    Prompt.dropNumber? (word ++ "(" ++ number ++ ")>" ++ rest) = some (word ++ ">" ++ rest) := by
  obtain ⟨c, digits, hdigits⟩ := List.exists_cons_of_ne_nil
    (mt String.toList_eq_nil_iff.mp h.nonempty)
  have hclose : ')' ∉ digits := fun hmem => h.noClosing (hdigits ▸ List.mem_cons_of_mem c hmem)
  -- The first character of the number is passed over before the mark is looked for.
  have hafter : Prompt.afterNumber ((word ++ "(" ++ number ++ ")>" ++ rest).toList.drop 5) =
      some rest.toList := by
    rw [← afterNumber_append rest.toList hclose]
    rcases hword with rfl | rfl <;> simp [hdigits]
  unfold Prompt.dropNumber?
  rw [hafter]
  rcases hword with rfl | rfl <;>
    simp [Prompt.hasNumber, startsWith, ← String.toList_inj]

theorem closesNumber_iff (s : String) :
    ClosesNumber s ↔ (Prompt.afterNumber (s.toList.drop 5)).isSome = true := by
  rw [afterNumber_isSome_iff]
  constructor
  · rintro ⟨before, after, hs, hlength⟩
    exact ⟨before.drop 5, after, by rw [hs, List.drop_append_of_le_length hlength]⟩
  · rintro ⟨before, after, hs⟩
    refine ⟨s.toList.take 5 ++ before, after, ?_, ?_⟩
    · rw [List.append_assoc, ← hs, List.take_append_drop]
    · have hlength := congrArg List.length hs
      simp only [List.length_drop, List.length_append, List.length_cons, List.length_take]
        at hlength ⊢
      omega

instance (s : String) : Decidable (ClosesNumber s) := decidable_of_iff' _ (closesNumber_iff s)

/-- A prompt without a character behind the parenthesis has no number to drop. -/
theorem dropNumber?_of_not_numbered {s : String} (h : Prompt.isNumbered s = false) :
    Prompt.dropNumber? s = none := by
  rw [Prompt.dropNumber?]
  split
  · next hnumber =>
    have hlength : s.toList.length ≤ 5 := by
      have : ¬ 4 < s.length := by simpa [Prompt.isNumbered, hnumber] using h
      rw [String.length_toList]
      omega
    rw [List.drop_of_length_le hlength]
    rfl
  · rfl

theorem plainLine_of_plain {line : SourceLine} (h : Prompt.isNumbered line.text = false) :
    plainLine line = .ok line := by
  unfold plainLine Prompt.plain
  rw [h]
  rfl

theorem plainLine_of_dropNumber? {line : SourceLine} {text : String}
    (h : Prompt.dropNumber? line.text = some text) :
    plainLine line = .ok { line with text := text } := by
  have hnumbered : Prompt.isNumbered line.text = true := by
    cases hno : Prompt.isNumbered line.text with
    | true => rfl
    | false =>
      rw [dropNumber?_of_not_numbered hno] at h
      cases h
  unfold plainLine Prompt.plain Prompt.dropNumber
  rw [if_pos hnumbered, h]
  rfl

theorem unnumbered_of_plain {line : SourceLine} (h : Prompt.isNumbered line.text = false) :
    unnumbered line = line := by
  rw [unnumbered, dropNumber?_of_not_numbered h, Option.getD_none]

theorem plainLine_of_closesNumber {line : SourceLine}
    (h : Prompt.isNumbered line.text = true → ClosesNumber line.text) :
    plainLine line = .ok (unnumbered line) := by
  cases hnumbered : Prompt.isNumbered line.text with
  | true =>
    obtain ⟨rest, hrest⟩ :=
      Option.isSome_iff_exists.mp ((closesNumber_iff line.text).mp (h hnumbered))
    have hnumber : Prompt.hasNumber line.text = true := by
      simp only [Prompt.isNumbered, Bool.and_eq_true] at hnumbered
      exact hnumbered.1
    have hdrop : Prompt.dropNumber? line.text =
        some (.ofList (line.text.toList.take 3 ++ '>' :: rest)) := by
      simp [Prompt.dropNumber?, hnumber, hrest]
    rw [plainLine_of_dropNumber? hdrop, unnumbered, hdrop, Option.getD_some]
  | false => rw [plainLine_of_plain hnumbered, unnumbered_of_plain hnumbered]

theorem mapM_plainLine {lines : List SourceLine}
    (h : ∀ line ∈ lines, Prompt.isNumbered line.text = true → ClosesNumber line.text) :
    lines.mapM plainLine = .ok (lines.map unnumbered) := by
  induction lines with
  | nil => rfl
  | cons line rest ih =>
    rw [List.mapM_cons, plainLine_of_closesNumber (h line (by simp)),
      ih fun l hl => h l (by simp [hl])]
    rfl

theorem eq_unnumbered_of_plainLine {line plain : SourceLine} (h : plainLine line = .ok plain) :
    plain = unnumbered line := by
  simp only [plainLine, Prompt.plain] at h
  split at h
  · rw [Prompt.dropNumber] at h
    split at h
    · next text htext =>
      cases h
      rw [unnumbered, htext, Option.getD_some]
    · cases h
  · next hno =>
    cases h
    exact (unnumbered_of_plain (Bool.eq_false_iff.mpr hno)).symm

theorem eq_map_unnumbered {lines plain : List SourceLine} (h : lines.mapM plainLine = .ok plain) :
    plain = lines.map unnumbered := by
  induction lines generalizing plain with
  | nil =>
    cases h
    rfl
  | cons line rest ih =>
    rw [List.mapM_cons] at h
    obtain ⟨first, hline, h⟩ := Transducer.exists_of_bind_eq_ok h
    obtain ⟨more, hrest, h⟩ := Transducer.exists_of_bind_eq_ok h
    cases h
    rw [eq_unnumbered_of_plainLine hline, ih hrest, List.map_cons]

end DocExamples.Transcript
