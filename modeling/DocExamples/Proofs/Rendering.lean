import DocExamples.Proofs.DocumentLines
import DocExamples.Proofs.TranscriptGrammar
import DocExamples.Proofs.PromptNumbers
import DocExamples.Text.Digit

/-!
# Examples as they are written

A block of examples is written behind a margin of spaces, one exchange after the other: the lines of
an expression behind prompts, then its output.  This module says what can be written so that it is
read back, and what the readers see in one written line.
-/

namespace DocExamples.Rendering

open Text Transcript

/-! ### What is written -/

/-- A line of an expression and the prompt in front of it. -/
structure Entry where
  /-- The prompt is `...>`, and not `iex>`. -/
  continues : Bool
  /-- The number in the prompt, if it has one. -/
  number : Option String
  source : String
deriving DecidableEq, Repr

/-- An expression, whose first line stands behind an `iex>` prompt, and its output. -/
structure Exchange where
  number : Option String
  source : String
  more : List Entry
  output : List String
deriving DecidableEq, Repr

/-- Exchanges behind a margin, with the lines of prose in front of them. -/
structure Block where
  prose : List String
  margin : Nat
  first : Exchange
  more : List Exchange
deriving DecidableEq, Repr

/-- The word that a prompt starts with. -/
def Entry.word (e : Entry) : String := if e.continues then "..." else "iex"

/-- The entry as it is written. -/
def Entry.text (e : Entry) : String :=
  match e.number with
  | none => e.word ++ "> " ++ e.source
  | some number => e.word ++ "(" ++ number ++ ")> " ++ e.source

/-- The entry behind a plain prompt. -/
def Entry.plain (e : Entry) : String := e.word ++ "> " ++ e.source

def Exchange.entries (x : Exchange) : List Entry := ⟨false, x.number, x.source⟩ :: x.more

/-- The lines of an exchange behind the margin. -/
def Exchange.texts (x : Exchange) : List String := x.entries.map (·.text) ++ x.output

def Block.exchanges (b : Block) : List Exchange := b.first :: b.more

def Block.texts (b : Block) : List String := b.exchanges.flatMap (·.texts)

/-- The text behind a margin. -/
def indent (margin : Nat) (s : String) : String := .ofList (List.replicate margin ' ') ++ s

/-- The lines of a block, down to its last exchange. -/
def Block.lines (b : Block) : List String := b.prose ++ b.texts.map (indent b.margin)

/-- The lines of a document: two empty lines stand behind each block. -/
def documentOf (blocks : List Block) : List String :=
  blocks.flatMap fun b => b.lines ++ ["", ""]

/-! ### What is read back -/

/-- The example of an exchange. -/
def Exchange.toExample (x : Exchange) : Example where
  source := x.entries.map (·.source)
  expected := joinLines x.output
  display := "\n" ++ joinLines (x.entries.map (·.plain)) ++ "\n" ++ joinLines x.output

/-- The groups of blocks, of which the first starts on line `start`. -/
def groupsFrom (identifier : Identifier) (start : Int) : List Block → List Group
  | [] => []
  | b :: rest =>
    ⟨start + b.prose.length, identifier, b.exchanges.map (·.toExample)⟩ ::
      groupsFrom identifier (start + b.lines.length + 2) rest

/-! ### What can be written -/

/-- A number is a text of digits, and an expression stays on its line. -/
structure Entry.WellFormed (e : Entry) : Prop where
  number : ∀ digits ∈ e.number, digits ≠ "" ∧ digits.toList.all isDigit = true
  source : IsLine e.source

/-- The line is read as output wherever it stands behind a prompt. -/
structure IsOutput (s : String) : Prop where
  line : IsLine s
  nonempty : s ≠ ""
  noFence : isFence s = false
  noContinuation : startsWith "...>" s = false ∧ startsWith "...(" s = false
  noOpening : Prompt.opens (trimStart s) = false

structure Exchange.WellFormed (x : Exchange) : Prop where
  entries : ∀ e ∈ x.entries, e.WellFormed
  output : ∀ s ∈ x.output, IsOutput s
  /-- The output starts at the margin. -/
  start : ∀ s ∈ x.output.head?, trimStart s = s

structure Block.WellFormed (b : Block) : Prop where
  prose : ∀ s ∈ b.prose, IsLine s ∧ Prompt.opens (trimStart s) = false
  exchanges : ∀ x ∈ b.exchanges, x.WellFormed
  /-- Only the last exchange can go without output. -/
  answered : ∀ x ∈ b.exchanges.dropLast, x.output ≠ []
  /-- Two exceptions cannot be expected together. -/
  exceptions : b.exchanges.countP (fun x => startsWith "** (" (joinLines x.output)) ≤ 1

instance (e : Entry) : Decidable e.WellFormed :=
  decidable_of_iff (_ ∧ _) ⟨fun h => ⟨h.1, h.2⟩, fun h => ⟨h.1, h.2⟩⟩

instance (s : String) : Decidable (IsOutput s) :=
  decidable_of_iff (_ ∧ _ ∧ _ ∧ _ ∧ _)
    ⟨fun h => ⟨h.1, h.2.1, h.2.2.1, h.2.2.2.1, h.2.2.2.2⟩, fun h => ⟨h.1, h.2, h.3, h.4, h.5⟩⟩

instance (x : Exchange) : Decidable x.WellFormed :=
  decidable_of_iff (_ ∧ _ ∧ _) ⟨fun h => ⟨h.1, h.2.1, h.2.2⟩, fun h => ⟨h.1, h.2, h.3⟩⟩

instance (b : Block) : Decidable b.WellFormed :=
  decidable_of_iff (_ ∧ _ ∧ _ ∧ _)
    ⟨fun h => ⟨h.1, h.2.1, h.2.2.1, h.2.2.2⟩, fun h => ⟨h.1, h.2, h.3, h.4⟩⟩

/-! ### Behind the margin -/

theorem toList_indent (margin : Nat) (s : String) :
    (indent margin s).toList = List.replicate margin ' ' ++ s.toList := by
  rw [indent, String.toList_append, String.toList_ofList]

theorem length_spaces (margin : Nat) :
    (String.ofList (List.replicate margin ' ')).length = margin := by
  rw [← String.length_toList, String.toList_ofList, List.length_replicate]

theorem isBlank_of_mem_spaces {margin : Nat} :
    ∀ c ∈ (String.ofList (List.replicate margin ' ')).toList, isBlank c = true := by
  intro c hc
  rw [String.toList_ofList] at hc
  rw [List.eq_of_mem_replicate hc]
  rfl

theorem dropChars_indent (margin : Nat) (s : String) : dropChars margin (indent margin s) = s := by
  have hcut := dropChars_append (.ofList (List.replicate margin ' ')) s 0
  rw [length_spaces, Nat.add_zero] at hcut
  rw [indent, hcut, dropChars_zero]

theorem trimStart_indent (margin : Nat) (s : String) :
    trimStart (indent margin s) = trimStart s :=
  trimStart_append isBlank_of_mem_spaces s

theorem leadingBlanks_indent (margin : Nat) (s : String) :
    leadingBlanks (indent margin s) = margin + leadingBlanks s := by
  rw [indent, leadingBlanks_append isBlank_of_mem_spaces, length_spaces]

/-! ### Prompts -/

/-- Nothing stands in front of a prompt. -/
theorem trimStart_of_isPrompt {s : String} (h : Prompt.isPrompt s = true) : trimStart s = s := by
  simp only [Prompt.isPrompt, Prompt.opens, startsWith, Bool.or_eq_true,
    List.isPrefixOf_iff_prefix] at h
  apply String.toList_inj.mp
  rw [toList_trimStart]
  rcases h with ((⟨rest, h⟩ | ⟨rest, h⟩) | ⟨rest, h⟩) | ⟨rest, h⟩ <;> rw [← h] <;> rfl

namespace Entry

variable (e : Entry)

theorem isPrompt_text : Prompt.isPrompt e.text = true := by
  obtain ⟨continues, number, source⟩ := e
  cases continues <;> cases number <;>
    simp [Prompt.isPrompt, Prompt.opens, startsWith, text, word]

theorem opens_text (h : e.continues = false) : Prompt.opens e.text = true := by
  obtain ⟨continues, number, source⟩ := e
  obtain rfl : continues = false := h
  cases number <;> simp [Prompt.opens, startsWith, text, word]

theorem isOpening_plain : isOpening e.plain = !e.continues := by
  cases h : e.continues <;> simp [isOpening, startsWith, plain, word, h, List.isPrefixOf]

theorem isPromptLine_plain (n : Int) : isPromptLine ⟨e.plain, n⟩ = true := by
  cases h : e.continues <;>
    simp [isPromptLine, isOpening, isContinuation, startsWith, plain, word, h]

theorem fragment_plain : Prompt.fragment e.plain = e.source := by
  cases h : e.continues <;> simp [Prompt.fragment, plain, word, h]

variable {e}

/-- A digit is neither a line feed nor the end of a number. -/
theorem WellFormed.not_mem_number (h : e.WellFormed) {digits : String}
    (hdigits : digits ∈ e.number) {c : Char} (hc : isDigit c = false) : c ∉ digits.toList := by
  intro hmem
  rw [List.all_eq_true.mp (h.number digits hdigits).2 c hmem] at hc
  cases hc

theorem closesNumber_text (h : e.WellFormed) (hnumbered : Prompt.isNumbered e.text = true) :
    ClosesNumber e.text := by
  obtain ⟨continues, number, source⟩ := e
  cases number with
  | none =>
    have hplain : Prompt.isNumbered (text ⟨continues, none, source⟩) = false := by
      apply Prompt.isNumbered_of_startsWith
      cases continues <;> simp [startsWith, text, word]
    rw [hplain] at hnumbered
    cases hnumbered
  | some digits =>
    have hlength : 0 < digits.toList.length := by
      rw [List.length_pos_iff, ne_eq, String.toList_eq_nil_iff]
      exact (h.number digits rfl).1
    refine ⟨(word ⟨continues, some digits, source⟩ ++ "(" ++ digits).toList,
      ' ' :: source.toList, by simp [text], ?_⟩
    cases continues <;> simp [word] <;> omega

theorem WellFormed.isPromptNumber (h : e.WellFormed) {digits : String}
    (hdigits : digits ∈ e.number) : IsPromptNumber digits :=
  ⟨(h.number digits hdigits).1, h.not_mem_number hdigits rfl⟩

theorem word_eq : e.word = "iex" ∨ e.word = "..." := by
  unfold word
  split
  · exact Or.inr rfl
  · exact Or.inl rfl

/-- A numbered prompt is read as the plain one. -/
theorem unnumbered_text (h : e.WellFormed) (n : Int) : unnumbered ⟨e.text, n⟩ = ⟨e.plain, n⟩ := by
  cases hnumber : e.number with
  | none =>
    have htext : e.text = e.plain := by rw [text, hnumber, plain]
    rw [htext]
    apply unnumbered_of_plain
    apply Prompt.isNumbered_of_startsWith
    rcases e.word_eq with hword | hword <;> simp [startsWith, plain, hword]
  | some digits =>
    have htext : e.text = e.word ++ "(" ++ digits ++ ")>" ++ (" " ++ e.source) := by
      rw [text, hnumber]
      apply String.toList_inj.mp
      simp
    have hplain : e.plain = e.word ++ ">" ++ (" " ++ e.source) := by
      apply String.toList_inj.mp
      simp [plain]
    rw [unnumbered, htext, dropNumber?_append _ e.word_eq (h.isPromptNumber hnumber),
      Option.getD_some, hplain]

/-! ### Lines -/

theorem isLine_text (h : e.WellFormed) : IsLine e.text := by
  have hword : IsLine e.word := by
    rw [word]
    split <;> decide
  cases hnumber : e.number with
  | none =>
    rw [text, hnumber]
    exact (hword.append (by decide)).append h.source
  | some digits =>
    have hdigits : IsLine digits :=
      isLine_of_not_mem (h.not_mem_number hnumber rfl) (h.not_mem_number hnumber rfl)
    rw [text, hnumber]
    exact (((hword.append (by decide)).append hdigits).append (by decide)).append h.source

end Entry

theorem isLine_indent {s : String} (margin : Nat) (h : IsLine s) : IsLine (indent margin s) := by
  have hspace : ∀ c, c ≠ ' ' → c ∉ (String.ofList (List.replicate margin ' ')).toList := by
    intro c hc hmem
    rw [String.toList_ofList] at hmem
    exact hc (List.eq_of_mem_replicate hmem)
  exact (isLine_of_not_mem (hspace _ (by decide)) (hspace _ (by decide))).append h

/-! ### Output -/

namespace IsOutput

variable {s : String} (h : IsOutput s)

include h

theorem isPrompt_eq_false : Prompt.isPrompt s = false := by
  by_contra hprompt
  have htrim := trimStart_of_isPrompt (Bool.not_eq_false _ ▸ hprompt)
  have hno := h.noOpening
  rw [htrim] at hno
  rw [Prompt.isPrompt, hno, h.noContinuation.1, h.noContinuation.2] at hprompt
  exact hprompt rfl

theorem isNumbered_eq_false : Prompt.isNumbered s = false := by
  have hno := h.isPrompt_eq_false
  simp only [Prompt.isPrompt, Prompt.opens, Bool.or_eq_false_iff] at hno
  rw [Prompt.isNumbered, Prompt.hasNumber, hno.1.1.2, hno.2]
  rfl

theorem isOpening_eq_false : isOpening s = false := by
  have hno := h.isPrompt_eq_false
  simp only [Prompt.isPrompt, Prompt.opens, Bool.or_eq_false_iff] at hno
  exact hno.1.1.1

theorem isPromptLine_eq_false (n : Int) : isPromptLine ⟨s, n⟩ = false := by
  rw [isPromptLine, h.isOpening_eq_false, isContinuation, h.noContinuation.1]
  rfl

theorem isTerminator_eq_false : isTerminator s = false := by
  rw [isTerminator, h.noFence, Bool.or_false]
  exact decide_eq_false h.nonempty

end IsOutput

end DocExamples.Rendering
