import DocExamples.Proofs.TranscriptReading

/-!
# Numbered prompts and plain ones

A session numbers its prompts, and who writes documentation may drop any of the numbers.  The reader
of transcripts looks at a numbered line once more than at a plain one, but comes from every state to
the same state (`Renumbers.settle_eq`).  So numbers have no part in the groups of a transcript, nor
in its defects (`scan_renumbered`).
-/

namespace DocExamples.Transcript

open Text Transducer

/-- One line in the place of another: the same line, or the one with a number in its prompt. -/
inductive Renumbers : SourceLine → SourceLine → Prop where
  | same (line : SourceLine) : Renumbers line line
  | numbered {word number : String} (rest : String) (n : Int)
      (hword : word = "iex" ∨ word = "...") (hnumber : IsPromptNumber number) :
      Renumbers ⟨word ++ ">" ++ rest, n⟩ ⟨word ++ "(" ++ number ++ ")>" ++ rest, n⟩

namespace Renumbers

variable {line other : SourceLine} (h : Renumbers line other)

include h

theorem plainLine_eq : plainLine other = plainLine line := by
  cases h with
  | same => rfl
  | @numbered word number rest n hword hnumber =>
    have hplain : Prompt.isNumbered (SourceLine.mk (word ++ ">" ++ rest) n).text = false := by
      apply Prompt.isNumbered_of_startsWith
      rcases hword with rfl | rfl <;> simp [startsWith]
    have hdrop : Prompt.dropNumber?
        (SourceLine.mk (word ++ "(" ++ number ++ ")>" ++ rest) n).text =
          some (word ++ ">" ++ rest) := dropNumber?_append rest hword hnumber
    rw [plainLine_of_plain hplain, plainLine_of_dropNumber? hdrop]

theorem settle_eq (r : Reading) : reader.settle r other = reader.settle r line := by
  rw [Transcript.settle_eq, Transcript.settle_eq, h.plainLine_eq]

end Renumbers

theorem feed_renumbered {lines others : List SourceLine} (h : List.Forall₂ Renumbers lines others)
    (r : Reading) : feed reader.settle r others = feed reader.settle r lines := by
  induction h generalizing r with
  | nil => rfl
  | cons hline _ ih =>
    rw [feed_cons, feed_cons, hline.settle_eq r]
    congr 1
    funext p
    rw [ih p.2]

/-- **Numbers of prompts make no difference.**  Numbers are put into any of the plain prompts of a
transcript.  Then it has the same groups, or the same defect, and it takes the reader from every
state to the same state. -/
theorem scan_renumbered (identifier : Identifier) {lines others : List SourceLine}
    (h : List.Forall₂ Renumbers lines others) :
    scan identifier others = scan identifier lines ∧
      ∀ r, feed reader.settle r others = feed reader.settle r lines := by
  have hfeed := feed_renumbered h
  refine ⟨?_, hfeed⟩
  unfold scan Rereader.run
  rw [run_eq_feed, run_eq_feed, hfeed]

/-- Numbers in prose, in front of an expression that holds a closing mark itself, and in front of an
unclosed prompt. -/
theorem scan_numbered_sample :
    scan .moduledoc
      [⟨"...(0)> none", 1⟩, ⟨"iex(a b)> f(x)> 1", 2⟩, ⟨"...> y)", 3⟩, ⟨"7", 4⟩, ⟨"iex(>)> 2", 5⟩] =
        .ok [⟨2, .moduledoc, [⟨["f(x)> 1", "y)"], "7", "\niex> f(x)> 1\n...> y)\n7"⟩,
          ⟨["2"], "", "\niex> 2\n"⟩]⟩] ∧
    scan .moduledoc [⟨"iex(1)> 1", 1⟩, ⟨"iex(2 3", 2⟩] = .error (.unknownPrompt 2 "iex(2 3") := by
  have hprose : Renumbers ⟨"...> none", 1⟩ ⟨"...(0)> none", 1⟩ :=
    @Renumbers.numbered "..." "0" " none" 1 (Or.inr rfl) ⟨by decide, by decide⟩
  have hexpression : Renumbers ⟨"iex> f(x)> 1", 2⟩ ⟨"iex(a b)> f(x)> 1", 2⟩ :=
    @Renumbers.numbered "iex" "a b" " f(x)> 1" 2 (Or.inl rfl) ⟨by decide, by decide⟩
  have hprompt : Renumbers ⟨"iex> 2", 5⟩ ⟨"iex(>)> 2", 5⟩ :=
    @Renumbers.numbered "iex" ">" " 2" 5 (Or.inl rfl) ⟨by decide, by decide⟩
  have hfirst : Renumbers ⟨"iex> 1", 1⟩ ⟨"iex(1)> 1", 1⟩ :=
    @Renumbers.numbered "iex" "1" " 1" 1 (Or.inl rfl) ⟨by decide, by decide⟩
  constructor
  · rw [(scan_renumbered .moduledoc (.cons hprose (.cons hexpression (.cons (.same _)
      (.cons (.same _) (.cons hprompt .nil)))))).1]
    decide +kernel
  · rw [(scan_renumbered .moduledoc (.cons hfirst (.cons (.same _) .nil))).1]
    decide +kernel

end DocExamples.Transcript
