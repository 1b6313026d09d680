import DocExamples.Script.Lexer

/-!
# Tokens at other places

The machine that reads tokens notes where they stand, and its decisions never look at that.  So two
machines that stand alike up to places (`Behind`) are taken by a character to two such machines
(`Behind.step`), and by a whole script as well (`Behind.readAll`).
-/

namespace DocExamples.Script

/-- What a logical line says, wherever it stands. -/
def LogicalLine.unplaced (l : LogicalLine) : Depth × List Token :=
  (l.depth, l.tokens.map (·.token))

/-- If a text is being read, then a line feed is none of its quotes. -/
def Lexing.IsQuoted : Lexing → Prop
  | .opening q _ => q.quote ≠ '\n'
  | .text q _ _ _ => q.quote ≠ '\n'
  | _ => True

namespace Lexer

/-- Two machines stand alike up to places, the second one behind some logical lines. -/
structure Behind (front : List LogicalLine) (l l' : Lexer) : Prop where
  lines : ∃ more, l'.lines = more ++ front ∧ more.map (·.unplaced) = l.lines.map (·.unplaced)
  tokens : l'.tokens.map (·.token) = l.tokens.map (·.token)
  depth : l'.depth = l.depth
  brackets : l'.brackets.map (·.1) = l.brackets.map (·.1)
  mode : l'.mode = l.mode
  quoted : l.mode.IsQuoted
  fault : l'.fault.isSome = l.fault.isSome

theorem quote_of_quoting? {letters : List Char} {quote : Char} {q : Quoting}
    (h : quoting? letters quote = some q) : q.quote = quote := by
  unfold quoting? at h
  split at h
  · cases h
    rfl
  · split at h
    · cases h
      rfl
    split at h
    · cases h
      rfl
    · obtain ⟨kind, -, rfl⟩ := Option.map_eq_some_iff.mp h
      rfl
  · split at h
    · obtain ⟨kind, -, rfl⟩ := Option.map_eq_some_iff.mp h
      rfl
    split at h
    · obtain ⟨kind, -, rfl⟩ := Option.map_eq_some_iff.mp h
      rfl
    · cases h
  · cases h

namespace Behind

variable {front : List LogicalLine} {l l' : Lexer}

theorem ite {p : Prop} [Decidable p] {m m' : Lexer} (hthen : p → Behind front l l')
    (helse : ¬p → Behind front m m') :
    Behind front (if p then l else m) (if p then l' else m') := by
  split
  · next hp => exact hthen hp
  · next hp => exact helse hp

variable (h : Behind front l l')

include h

/-! ### Tokens and lines -/

theorem tokens_isEmpty : l'.tokens.isEmpty = l.tokens.isEmpty := by
  rw [← List.isEmpty_map (f := (·.token)), h.tokens, List.isEmpty_map]

theorem brackets_isEmpty : l'.brackets.isEmpty = l.brackets.isEmpty := by
  rw [← List.isEmpty_map (f := (·.1)), h.brackets, List.isEmpty_map]

theorem brackets_length : l'.brackets.length = l.brackets.length := by
  rw [← List.length_map (f := (·.1)), h.brackets, List.length_map]

theorem withMode {m : Lexing} (hm : m.IsQuoted) :
    Behind front { l with mode := m } { l' with mode := m } :=
  { h with mode := rfl, quoted := hm }

theorem withStart (p p' : Position) :
    Behind front { l with start := p } { l' with start := p' } :=
  { h with }

theorem emitAt (t : Token) (p p' q q' : Position) :
    Behind front (l.emitAt t p q) (l'.emitAt t p' q') :=
  { h with tokens := by simp [Lexer.emitAt, h.tokens], mode := rfl, quoted := trivial }

theorem emit (t : Token) : Behind front (l.emit t) (l'.emit t) := h.emitAt t ..

theorem emitThrough (t : Token) (c : Char) :
    Behind front (l.emitThrough t c) (l'.emitThrough t c) := h.emitAt t ..

theorem enter {m : Lexing} (hm : m.IsQuoted) : Behind front (l.enter m) (l'.enter m) :=
  (h.withStart l.here l'.here).withMode hm

theorem stop (f f' : LexicalFault) : Behind front (l.stop f) (l'.stop f') :=
  { h with fault := rfl }

theorem newline : Behind front l.newline l'.newline := by
  unfold Lexer.newline
  rw [h.brackets_isEmpty, h.tokens_isEmpty]
  have hline : LogicalLine.unplaced ⟨l'.depth, l'.tokens.reverse, l'.here⟩ =
      LogicalLine.unplaced ⟨l.depth, l.tokens.reverse, l.here⟩ := by
    simp [LogicalLine.unplaced, h.depth, h.tokens]
  refine ite (fun _ => h.withMode trivial) fun _ => ite (fun _ => ?_) fun _ => ?_
  · exact { h with depth := rfl, mode := rfl, quoted := trivial }
  · obtain ⟨more, hlines, hmore⟩ := h.lines
    exact
      { h with
        lines := ⟨⟨l'.depth, l'.tokens.reverse, l'.here⟩ :: more,
          by rw [hlines, List.cons_append], by rw [List.map_cons, List.map_cons, hline, hmore]⟩
        tokens := rfl, depth := rfl, mode := rfl, quoted := trivial }

/-! ### Brackets -/

theorem openBracket (c : Char) : Behind front (l.openBracket c) (l'.openBracket c) := by
  unfold Lexer.openBracket
  rw [h.brackets_length]
  refine ite (fun _ => h.stop _ _) fun _ => ?_
  exact { h.emitThrough (.mark c.toString) c with brackets := by simp [h.brackets] }

theorem closeBracket (closing opening : Char) :
    Behind front (l.closeBracket closing opening) (l'.closeBracket closing opening) := by
  have hbrackets := h.brackets
  unfold Lexer.closeBracket
  cases hl : l.brackets with
  | nil =>
    rw [hl, List.map_nil, List.map_eq_nil_iff] at hbrackets
    rw [hbrackets]
    exact h.stop _ _
  | cons b rest =>
    rw [hl, List.map_cons] at hbrackets
    obtain ⟨b', rest', hl', hb, hrest⟩ := List.map_eq_cons_iff.mp hbrackets
    rw [hl']
    simp only [hb]
    refine ite (fun _ => ?_) fun _ => h.stop _ _
    exact { h.emitThrough (.mark closing.toString) closing with brackets := hrest }

/-! ### Where a token may start -/

theorem startToken (c : Char) : Behind front (l.startToken c) (l'.startToken c) := by
  unfold Lexer.startToken
  have hstart := h.withStart l.here l'.here
  refine ite (fun _ => h.newline) fun _ => ?_
  refine ite (fun _ => h.withMode trivial) fun _ => ?_
  refine ite (fun _ => h.withMode trivial) fun _ => ?_
  refine ite (fun _ => h.withMode trivial) fun _ => ?_
  refine ite (fun hquote => h.enter ?_) fun _ => ?_
  · rcases hquote with rfl | rfl <;> simp [Lexing.IsQuoted]
  refine ite (fun _ => h.enter trivial) fun _ => ?_
  refine ite (fun _ => h.enter trivial) fun _ => ?_
  refine ite (fun _ => h.enter trivial) fun _ => ?_
  refine ite (fun _ => h.enter trivial) fun _ => ?_
  refine ite (fun _ => hstart.openBracket c) fun _ => ?_
  cases opening? c with
  | some opening => exact hstart.closeBracket c opening
  | none => exact ite (fun _ => hstart.emitThrough _ c) fun _ => hstart.stop _ _

theorem startBehind (c : Char) : Behind front (l.startBehind c) (l'.startBehind c) := by
  unfold Lexer.startBehind
  rw [h.fault]
  exact ite (fun _ => h) fun _ => h.startToken c

/-! ### Numbers -/

theorem stepWordBehindNumber (kind : NumberKind) (read : List Char) :
    Behind front (Lexer.stepWordBehindNumber kind read l)
      (Lexer.stepWordBehindNumber kind read l') := by
  unfold Lexer.stepWordBehindNumber
  refine ite (fun _ => h.withMode trivial) fun _ => ?_
  exact ite (fun _ => h.withMode trivial) fun _ => h.stop _ _

theorem endNumber (part : NumberPart) (read : List Char) (c : Char) :
    Behind front (l.endNumber part read c) (l'.endNumber part read c) := by
  unfold Lexer.endNumber
  have hbehind := h.emit (numberToken part read)
  have hword := hbehind.withStart l.here l'.here
  refine ite (fun _ => h.stop _ _) fun _ => ?_
  exact ite (fun _ => hword.stepWordBehindNumber part.kind [c]) fun _ => hbehind.startToken c

theorem stepNumber (part : NumberPart) (gap : NumberGap) (read : List Char) (c : Char) :
    Behind front (l.stepNumber part gap read c) (l'.stepNumber part gap read c) := by
  unfold Lexer.stepNumber
  have hgoOn : ∀ part gap, Behind front { l with mode := .number part gap (c :: read) }
      { l' with mode := .number part gap (c :: read) } := fun _ _ => h.withMode trivial
  have hend : ∀ part, Behind front (l.endNumber part read c) (l'.endNumber part read c) :=
    fun part => h.endNumber part read c
  simp only
  split
  · refine ite (fun _ => hgoOn _ _) fun _ => ?_
    refine ite (fun _ => hgoOn _ _) fun _ => ?_
    refine ite (fun _ => h.stop _ _) fun _ => ?_
    exact ite (fun _ => hend _) fun _ => h.stop _ _
  · exact hend _
  · refine ite (fun _ => hgoOn _ _) fun _ => ?_
    refine ite (fun _ => hgoOn _ _) fun _ => ?_
    refine ite (fun _ => h.withMode trivial) fun _ => ?_
    refine ite (fun _ => hgoOn _ _) fun _ => ?_
    refine ite (fun _ => hgoOn _ _) fun _ => ?_
    split
    · exact hgoOn _ _
    · exact hend _
  · exact ite (fun _ => hgoOn _ _) fun _ => h.stop _ _

theorem stepExponent (part : NumberPart) (read : List Char) (letter c : Char) :
    Behind front (l.stepExponent part read letter c) (l'.stepExponent part read letter c) := by
  unfold Lexer.stepExponent
  have hnumber := (h.emitAt (numberToken part read) l.start l'.start l.before l'.before).withStart
    l.before l'.before
  refine ite (fun _ => h.withMode trivial) fun _ => ?_
  refine ite (fun _ => h.withMode trivial) fun _ => ?_
  exact ite (fun _ => hnumber.stepWordBehindNumber .decimal [c, letter]) fun _ => h.stop _ _

/-! ### Texts, names and marks -/

theorem emitName (read : List Char) : Behind front (l.emitName read) (l'.emitName read) := by
  unfold Lexer.emitName
  split
  · exact h.stop _ _
  · exact h.emit _

theorem stepText {q : Quoting} (hq : q.quote ≠ '\n') (read : List Char) (escaped : Bool)
    (closing : Nat) (c : Char) :
    Behind front (l.stepText q read escaped closing c) (l'.stepText q read escaped closing c) := by
  unfold Lexer.stepText
  refine ite (fun _ => h.withMode hq) fun _ => ?_
  refine ite (fun _ => h.stop _ _) fun _ => ?_
  refine ite (fun _ => h.withMode hq) fun _ => ?_
  refine ite (fun _ => h.withMode hq) fun _ => ?_
  refine ite (fun _ => h.emitThrough _ c) fun _ => ?_
  exact ite (fun _ => h.emitThrough _ c) fun _ => h.withMode hq

theorem stepPoints (count : Nat) (c : Char) :
    Behind front (l.stepPoints count c) (l'.stepPoints count c) := by
  unfold Lexer.stepPoints
  have hpoint := (h.emitAt (.mark ".") l.start l'.start l.before l'.before).withStart
    l.before l'.before
  refine ite (fun _ => ?_) fun _ => ite (fun _ => h.emitThrough _ c) fun _ => ?_
  · refine ite (fun _ => h.withMode trivial) fun _ => ?_
    exact ite (fun _ => h.withMode trivial) fun _ => (h.emit _).startToken c
  · exact ite (fun _ => hpoint.withMode trivial) fun _ => (hpoint.emit _).startToken c

theorem stepOpening {q : Quoting} (hq : q.quote ≠ '\n') (count : Nat) (c : Char) :
    Behind front (l.stepOpening q count c) (l'.stepOpening q count c) := by
  unfold Lexer.stepOpening
  refine ite (fun _ => ?_) fun _ => ?_
  · exact ite (fun _ => h.withMode hq) fun _ => h.stepText hq [] false 0 c
  · exact ite (fun _ => h.withMode hq) fun _ => (h.emit _).startToken c

theorem stepName (read : List Char) (c : Char) :
    Behind front (l.stepName read c) (l'.stepName read c) := by
  unfold Lexer.stepName
  refine ite (fun _ => h.withMode trivial) fun _ => ?_
  split
  · next q hq =>
    split at hq
    · next hquote =>
      refine h.withMode ?_
      have := quote_of_quoting? hq
      rcases hquote with rfl | rfl <;> simp [Lexing.IsQuoted, this]
    · cases hq
  · exact (h.emitName read).startBehind c

theorem stepLineStart (fixed : Bool) (c : Char) :
    Behind front (l.stepLineStart fixed c) (l'.stepLineStart fixed c) := by
  unfold Lexer.stepLineStart
  have hbetween := h.withMode (m := .between) trivial
  rw [h.depth] at hbetween ⊢
  refine ite (fun _ => ?_) fun _ => ite (fun _ => ?_) fun _ => hbetween.startToken c
  · exact { h with depth := rfl, mode := rfl, quoted := trivial }
  · exact { h with depth := rfl, mode := rfl, quoted := trivial }

/-! ### Whole scripts -/

theorem read (c : Char) : Behind front (l.read c) (l'.read c) := by
  have hquoted := h.quoted
  unfold Lexer.read
  rw [h.mode]
  cases hmode : l.mode with
  | lineStart fixed => exact h.stepLineStart fixed c
  | joinedAtStart =>
    rw [h.depth]
    exact h.stepLineStart _ c
  | jointAtStart =>
    exact ite (fun _ => h.withMode (m := .joinedAtStart) trivial) fun _ => h.stop _ _
  | between => exact h.startToken c
  | joined => exact h.startToken c
  | comment => exact ite (fun _ => h.newline) fun _ => h
  | joint => exact ite (fun _ => h.withMode (m := .joined) trivial) fun _ => h.stop _ _
  | name read => exact h.stepName read c
  | number part gap read => exact h.stepNumber part gap read c
  | exponentMark part read letter => exact h.stepExponent part read letter c
  | wordBehindNumber kind read =>
    exact ite (fun _ => h.stepName read c) fun _ => h.stepWordBehindNumber kind (c :: read)
  | points count => exact h.stepPoints count c
  | mark read =>
    exact ite (fun _ => h.withMode (m := .mark (c :: read)) trivial)
      fun _ => (h.emit _).startToken c
  | opening q count =>
    rw [hmode] at hquoted
    exact h.stepOpening hquoted count c
  | text q read escaped closing =>
    rw [hmode] at hquoted
    exact h.stepText hquoted read escaped closing c

theorem step (c : Char) : Behind front (l.step c) (l'.step c) := by
  unfold Lexer.step
  rw [h.fault]
  exact ite (fun _ => h) fun _ => { h.read c with }

theorem readAll (cs : List Char) : Behind front (l.readAll cs) (l'.readAll cs) := by
  induction cs generalizing l l' with
  | nil => exact h
  | cons c rest ih => exact ih (h.step c)

end Behind

end Lexer

end DocExamples.Script
