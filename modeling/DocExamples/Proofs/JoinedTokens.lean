import DocExamples.Proofs.DocumentLines
import DocExamples.Proofs.TokenPlaces

/-!
# The tokens of joined scripts

Two scripts are joined by a line feed.  A line feed that a script may end with takes the machine to
the start of a line (`endsLine_step`), where nothing but places tells it from a machine that has
read nothing yet.  So the logical lines of the joined script are those of the two scripts, one after
the other, up to places (`tokenize_joined`).
-/

namespace DocExamples.Script

/-- A script may end in this mode. -/
def Lexing.CanEnd : Lexing → Prop
  | .text .. | .joined | .joinedAtStart => False
  | _ => True

namespace Lexer

/-! ### The end of a line -/

theorem finish_lines (l : Lexer) : l.finish.lines = l.lines := by
  unfold finish
  simp only
  split <;> rfl

theorem finish_fault_eq_none_iff (l : Lexer) :
    l.finish.fault = none ↔ l.fault = none ∧ l.brackets = [] ∧ l.mode.CanEnd := by
  unfold finish
  simp only
  cases hfault : l.fault with
  | some f => simp [hfault]
  | none =>
    cases hbrackets : l.brackets with
    | cons b rest => cases hmode : l.mode <;> simp [stop]
    | nil => cases hmode : l.mode <;> simp [stop, hfault, Lexing.CanEnd]

theorem Behind.finish_fault_eq_none_iff {front : List LogicalLine} {l l' : Lexer}
    (h : Behind front l l') : l'.finish.fault = none ↔ l.finish.fault = none := by
  have hfault : l'.fault = none ↔ l.fault = none := by
    rw [← Option.isSome_eq_false_iff.trans Option.isNone_iff_eq_none, h.fault,
      Option.isSome_eq_false_iff, Option.isNone_iff_eq_none]
  have hbrackets : l'.brackets = [] ↔ l.brackets = [] := by
    rw [← List.isEmpty_iff, h.brackets_isEmpty, List.isEmpty_iff]
  rw [Lexer.finish_fault_eq_none_iff, Lexer.finish_fault_eq_none_iff, hfault, hbrackets, h.mode]

/-- The machine stands in front of a line, and nothing from the lines above matters for it. -/
structure AtLineStart (l : Lexer) : Prop where
  tokens : l.tokens = []
  depth : l.depth = {}
  brackets : l.brackets = []
  mode : l.mode = .lineStart false
  fault : l.fault = none

theorem AtLineStart.behind {l : Lexer} (h : AtLineStart l) : Behind l.lines {} l where
  lines := ⟨[], rfl, rfl⟩
  tokens := by rw [h.tokens]
  depth := h.depth
  brackets := by rw [h.brackets]
  mode := h.mode
  quoted := trivial
  fault := by rw [h.fault]

theorem startToken_newline (l : Lexer) : l.startToken '\n' = l.newline := by
  simp [startToken]

/-- If a script may end here, then the machine stands in front of a line. -/
def EndsLine (l : Lexer) : Prop := l.finish.fault = none → AtLineStart l

theorem newline_brackets (l : Lexer) : l.newline.brackets = l.brackets := by
  unfold newline
  split
  · rfl
  · split <;> rfl

theorem newline_fault (l : Lexer) : l.newline.fault = l.fault := by
  unfold newline
  split
  · rfl
  · split <;> rfl

theorem endsLine_newline (l : Lexer) : EndsLine l.newline := by
  intro hend
  obtain ⟨hfault, hbrackets, -⟩ := (finish_fault_eq_none_iff _).mp hend
  rw [newline_fault] at hfault
  rw [newline_brackets] at hbrackets
  unfold newline
  simp only [hbrackets, List.isEmpty_nil, Bool.not_true, Bool.false_eq_true, if_false]
  split
  · next htokens => exact ⟨List.isEmpty_iff.mp htokens, rfl, rfl, rfl, hfault⟩
  · exact ⟨rfl, rfl, rfl, rfl, hfault⟩

theorem endsLine_stop (f : LexicalFault) (l : Lexer) : EndsLine (l.stop f) := by
  intro hend
  cases ((finish_fault_eq_none_iff _).mp hend).1

theorem endsLine_of_mode {l : Lexer} (h : ¬l.mode.CanEnd) : EndsLine l := by
  intro hend
  exact (h ((finish_fault_eq_none_iff _).mp hend).2.2).elim

theorem EndsLine.ite {p : Prop} [Decidable p] {l m : Lexer} (hthen : p → EndsLine l)
    (helse : ¬p → EndsLine m) : EndsLine (if p then l else m) := by
  split
  · next hp => exact hthen hp
  · next hp => exact helse hp

section Newline

variable (l : Lexer)

theorem endsLine_startToken : EndsLine (l.startToken '\n') := by
  rw [startToken_newline]
  exact endsLine_newline l

theorem endsLine_startBehind : EndsLine (l.startBehind '\n') := by
  unfold startBehind
  refine .ite (fun hfault => ?_) fun _ => endsLine_startToken l
  intro hend
  rw [((finish_fault_eq_none_iff _).mp hend).1] at hfault
  cases hfault

/-- No word that may follow a number holds a line feed. -/
theorem endsLine_stepWordBehindNumber (kind : NumberKind) {read : List Char} (h : '\n' ∈ read) :
    EndsLine (stepWordBehindNumber kind read l) := by
  have hwords : ∀ w ∈ shortWordsBehindNumbers ++ wordsBehindNumbers, '\n' ∉ w.toList := by
    decide
  unfold stepWordBehindNumber
  refine .ite (fun hword => ?_) fun _ => .ite (fun hword => ?_) fun _ => endsLine_stop _ l
  · obtain ⟨w, hw, heq⟩ := List.any_eq_true.mp hword
    have hmem : '\n' ∈ w.toList := by
      rw [of_decide_eq_true heq]
      simpa using h
    exact (hwords w (List.mem_append_left _ hw) hmem).elim
  · obtain ⟨w, hw, hprefix⟩ := List.any_eq_true.mp hword
    have hmem : '\n' ∈ w.toList :=
      (List.isPrefixOf_iff_prefix.mp hprefix).subset (by simpa using h)
    exact (hwords w hw hmem).elim

theorem endsLine_endNumber (part : NumberPart) (read : List Char) :
    EndsLine (l.endNumber part read '\n') := by
  unfold endNumber
  refine .ite (fun _ => endsLine_stop _ l) fun _ => .ite (fun hword => ?_) fun _ => ?_
  · exact absurd hword.1 (by decide)
  · exact endsLine_startToken _

theorem endsLine_stepNumber (part : NumberPart) (gap : NumberGap) (read : List Char) :
    EndsLine (l.stepNumber part gap read '\n') := by
  have hend : ∀ part, EndsLine (l.endNumber part read '\n') :=
    fun part => endsLine_endNumber l part read
  have hdigit : ∀ kind, ¬isDigitOf kind '\n' = true := by
    intro kind
    cases kind <;> decide
  unfold stepNumber
  simp only
  split
  · refine .ite (fun h => (hdigit _ h).elim) fun _ => ?_
    refine .ite (fun h => absurd h.1 (by decide)) fun _ => ?_
    refine .ite (fun h => absurd h (by decide)) fun _ => ?_
    exact .ite (fun _ => hend _) fun _ => endsLine_stop _ l
  · exact hend _
  · refine .ite (fun h => absurd h (by decide)) fun _ => ?_
    refine .ite (fun h => absurd h.1 (by decide)) fun _ => ?_
    refine .ite (fun h => absurd h.1 (by decide)) fun _ => ?_
    refine .ite (fun h => absurd h (by decide)) fun _ => ?_
    refine .ite (fun h => absurd h.1 (by decide)) fun _ => ?_
    have hbased : basedKind? '\n' = none := rfl
    rw [hbased, ite_self]
    exact hend _
  · exact .ite (fun h => absurd h (by decide)) fun _ => endsLine_stop _ l

theorem endsLine_stepExponent (part : NumberPart) (read : List Char) (letter : Char) :
    EndsLine (l.stepExponent part read letter '\n') := by
  unfold stepExponent
  refine .ite (fun h => absurd h (by decide)) fun _ => ?_
  refine .ite (fun h => absurd h (by decide)) fun _ => ?_
  exact .ite (fun _ => endsLine_stepWordBehindNumber _ _ List.mem_cons_self)
    fun _ => endsLine_stop _ l

theorem endsLine_stepName (read : List Char) : EndsLine (l.stepName read '\n') := by
  unfold stepName
  refine .ite (fun h => absurd h (by decide)) fun _ => ?_
  rw [if_neg (by decide)]
  exact endsLine_startBehind _

theorem endsLine_stepPoints (count : Nat) : EndsLine (l.stepPoints count '\n') := by
  unfold stepPoints
  refine .ite (fun _ => ?_) fun _ => ?_
  · refine .ite (fun h => absurd h (by decide)) fun _ => ?_
    exact .ite (fun h => absurd h (by decide)) fun _ => endsLine_startToken _
  · refine .ite (fun h => absurd h (by decide)) fun _ => ?_
    exact .ite (fun h => absurd h (by decide)) fun _ => endsLine_startToken _

theorem endsLine_stepText {q : Quoting} (hq : q.quote ≠ '\n') (read : List Char) (escaped : Bool)
    (closing : Nat) : EndsLine (l.stepText q read escaped closing '\n') := by
  unfold stepText
  refine .ite (fun _ => endsLine_of_mode id) fun _ => ?_
  refine .ite (fun _ => endsLine_stop _ l) fun _ => ?_
  refine .ite (fun _ => endsLine_of_mode id) fun _ => ?_
  exact .ite (fun _ => endsLine_of_mode id) fun h => (h hq.symm).elim

theorem endsLine_stepOpening {q : Quoting} (hq : q.quote ≠ '\n') (count : Nat) :
    EndsLine (l.stepOpening q count '\n') := by
  unfold stepOpening
  refine .ite (fun _ => ?_) fun _ => ?_
  · exact .ite (fun h => (hq h.symm).elim) fun _ => endsLine_stepText l hq [] false 0
  · exact .ite (fun h => (hq h.symm).elim) fun _ => endsLine_startToken _

theorem endsLine_stepLineStart (fixed : Bool) : EndsLine (l.stepLineStart fixed '\n') := by
  unfold stepLineStart
  refine .ite (fun h => absurd h (by decide)) fun _ => ?_
  exact .ite (fun h => absurd h (by decide)) fun _ => endsLine_startToken _

theorem endsLine_read (hquoted : l.mode.IsQuoted) : EndsLine (l.read '\n') := by
  unfold read
  cases hmode : l.mode with
  | lineStart fixed => exact endsLine_stepLineStart l fixed
  | joinedAtStart => exact endsLine_stepLineStart l _
  | jointAtStart => exact endsLine_of_mode id
  | between => exact endsLine_startToken l
  | joined => exact endsLine_startToken l
  | comment => exact endsLine_newline l
  | joint => exact endsLine_of_mode id
  | name read => exact endsLine_stepName l read
  | number part gap read => exact endsLine_stepNumber l part gap read
  | exponentMark part read letter => exact endsLine_stepExponent l part read letter
  | wordBehindNumber kind read =>
    exact .ite (fun _ => endsLine_stepName l read)
      fun _ => endsLine_stepWordBehindNumber l kind List.mem_cons_self
  | points count => exact endsLine_stepPoints l count
  | mark read =>
    have hmarks : ∀ w ∈ longMarks, '\n' ∉ w.toList := by decide
    refine .ite (fun hmark => ?_) fun _ => endsLine_startToken _
    obtain ⟨w, hw, heq⟩ := List.any_eq_true.mp hmark
    have hmem : '\n' ∈ w.toList := by
      rw [of_decide_eq_true heq]
      simp
    exact (hmarks w hw hmem).elim
  | opening q count =>
    rw [hmode] at hquoted
    exact endsLine_stepOpening l hquoted count
  | text q read escaped closing =>
    rw [hmode] at hquoted
    exact endsLine_stepText l hquoted read escaped closing

theorem endsLine_step (hquoted : l.mode.IsQuoted) : EndsLine (l.step '\n') := by
  unfold step
  refine .ite (fun hfault => ?_) fun _ => ?_
  · intro hend
    rw [((finish_fault_eq_none_iff _).mp hend).1] at hfault
    cases hfault
  · intro hend
    have hread : (l.read '\n').finish.fault = none := by
      rw [finish_fault_eq_none_iff] at hend ⊢
      exact hend
    exact { endsLine_read l hquoted hread with }

end Newline

/-- A further line feed in front of a line changes nothing. -/
theorem AtLineStart.step_newline {l : Lexer} (h : AtLineStart l) :
    AtLineStart (l.step '\n') ∧ (l.step '\n').lines = l.lines := by
  have hread : l.read '\n' = { l with depth := {}, mode := .lineStart false } := by
    simp only [read, h.mode, stepLineStart]
    rw [if_neg (by decide), if_neg (by decide), startToken_newline]
    simp [newline, h.brackets, h.tokens]
  have hstep : l.step '\n' =
      { l with depth := {}, mode := .lineStart false, here := l.here.next '\n' } := by
    simp [step, h.fault, hread]
  rw [hstep]
  exact ⟨⟨h.tokens, rfl, h.brackets, rfl, h.fault⟩, rfl⟩

theorem readAll_append (l : Lexer) (cs ds : List Char) :
    l.readAll (cs ++ ds) = (l.readAll cs).readAll ds := List.foldl_append

theorem atLineStart_readAll {cs : List Char}
    (h : (readAll {} (cs ++ ['\n'])).finish.fault = none) :
    AtLineStart (readAll {} (cs ++ ['\n'])) := by
  have hinitial : Behind [] {} {} := ⟨⟨[], rfl, rfl⟩, rfl, rfl, rfl, rfl, trivial, rfl⟩
  rw [readAll_append] at h ⊢
  exact endsLine_step _ (hinitial.readAll cs).quoted h

end Lexer

/-! ### Joined scripts -/

/-- The characters of a script whose last line is ended. -/
def endLine (cs : List Char) : List Char := if cs.getLast? = some '\n' then cs else cs ++ ['\n']

theorem tokenize_eq (s : String) :
    tokenize s = (Lexer.readAll {} (endLine (Text.unifyNewlines s.toList))).finish := rfl

theorem exists_append_endLine (cs : List Char) : ∃ front, endLine cs = front ++ ['\n'] := by
  unfold endLine
  split
  · next h =>
    obtain ⟨front, rfl⟩ := List.getLast?_eq_some_iff.mp h
    exact ⟨front, rfl⟩
  · exact ⟨cs, rfl⟩

theorem endLine_append {cs ds : List Char} (h : ds ≠ []) :
    endLine (cs ++ ds) = cs ++ endLine ds := by
  unfold endLine
  rw [List.getLast?_append_of_ne_nil cs h]
  split
  · rfl
  · rw [List.append_assoc]

/-- The line feed between two scripts ends the last line of the first one, or is a blank line, or
belongs to a carriage return in front of it. -/
theorem exists_unifyNewlines_joined (s t : String) :
    ∃ gap, (gap = [] ∨ gap = ['\n']) ∧
      Text.unifyNewlines (s ++ "\n" ++ t).toList =
        endLine (Text.unifyNewlines s.toList) ++ gap ++ Text.unifyNewlines t.toList := by
  have hchars : (s ++ "\n" ++ t).toList = s.toList ++ '\n' :: t.toList := by simp
  rw [hchars]
  by_cases hreturn : s.toList.getLast? = some '\r'
  · obtain ⟨front, hfront⟩ := List.getLast?_eq_some_iff.mp hreturn
    refine ⟨[], Or.inl rfl, ?_⟩
    simp only [hfront, Text.unifyNewlines, List.append_assoc, List.cons_append, List.nil_append,
      Text.foldCrlf_append_crlf, Text.foldCrlf_append_return, List.map_append, List.map_cons,
      List.map_nil, if_true]
    simp [endLine]
  · have hjoined : Text.unifyNewlines (s.toList ++ '\n' :: t.toList) =
        Text.unifyNewlines s.toList ++ '\n' :: Text.unifyNewlines t.toList := by
      simp [Text.unifyNewlines, Text.foldCrlf_append_newline _ _ hreturn]
    rw [hjoined, endLine]
    split
    · exact ⟨['\n'], Or.inr rfl, by simp⟩
    · exact ⟨[], Or.inl rfl, by simp⟩

/-- **The logical lines of joined scripts.**  A script that is read to its end is joined to another
one.  Then the lines of that one are read behind its lines as they are read alone, up to places. -/
theorem tokenize_joined {s t : String} (hs : (tokenize s).fault = none) (ht : t ≠ "") :
    ((tokenize (s ++ "\n" ++ t)).fault = none ↔ (tokenize t).fault = none) ∧
      ∃ more, (tokenize (s ++ "\n" ++ t)).lines = more ++ (tokenize s).lines ∧
        more.map (·.unplaced) = (tokenize t).lines.map (·.unplaced) := by
  obtain ⟨front, hfront⟩ := exists_append_endLine (Text.unifyNewlines s.toList)
  obtain ⟨gap, hgap, hjoined⟩ := exists_unifyNewlines_joined s t
  have htail : Text.unifyNewlines t.toList ≠ [] := Text.unifyNewlines_ne_nil (by simpa using ht)
  rw [tokenize_eq, hfront] at hs
  have hstart := Lexer.atLineStart_readAll hs
  simp only [tokenize_eq, hjoined, endLine_append htail, hfront,
    Lexer.readAll_append _ _ (endLine _), Lexer.readAll_append _ _ gap, Lexer.finish_lines]
  generalize Lexer.readAll {} (front ++ ['\n']) = l at hstart
  obtain ⟨hbehind, hlines⟩ :
      Lexer.AtLineStart (l.readAll gap) ∧ (l.readAll gap).lines = l.lines := by
    rcases hgap with rfl | rfl
    · exact ⟨hstart, rfl⟩
    · exact hstart.step_newline
  have hrest := hbehind.behind.readAll (endLine (Text.unifyNewlines t.toList))
  rw [hlines] at hrest
  exact ⟨hrest.finish_fault_eq_none_iff, hrest.lines⟩

end DocExamples.Script
