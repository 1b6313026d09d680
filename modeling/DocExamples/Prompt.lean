import DocExamples.Defect

/-!
Prompts.

A session has two prompts: `iex>` opens an expression and `...>` continues it.  Both may carry a
number, as in `iex(3)>`; a numbered prompt is read as the plain one.
-/

namespace DocExamples.Prompt

open Text

/-- The text starts with the opening prompt, plain or numbered. -/
def opens (s : String) : Bool := startsWith "iex>" s || startsWith "iex(" s

/-- The text starts with either prompt, plain or numbered. -/
def isPrompt (s : String) : Bool := opens s || startsWith "...>" s || startsWith "...(" s

/-- The text starts as a numbered prompt does. -/
def hasNumber (s : String) : Bool := startsWith "iex(" s || startsWith "...(" s

/-- The text is to be read as a numbered prompt: something follows the parenthesis. -/
def isNumbered (s : String) : Bool := hasNumber s && 4 < s.length

/-- What follows the first closing mark of a numbered prompt. -/
def afterNumber : List Char → Option (List Char)
  | [] => none
  | ')' :: '>' :: rest => some rest
  | _ :: rest => afterNumber rest

/-- The text with the number of its prompt left out.  The character behind the parenthesis is
never read as part of the closing mark. -/
def dropNumber? (s : String) : Option String :=
  if hasNumber s then
    (afterNumber (s.toList.drop 5)).map fun rest => .ofList (s.toList.take 3 ++ '>' :: rest)
  else none

/-- The text with the number of its prompt left out, or the complaint that it has none to leave
out. -/
def dropNumber (line : Int) (s : String) : Except Defect String :=
  match dropNumber? s with
  | some plain => .ok plain
  | none => .error (.unknownPrompt line s)

/-- The text with a plain prompt in place of a numbered one; other texts stay as they are. -/
def plain (line : Int) (s : String) : Except Defect String :=
  if isNumbered s then dropNumber line s else .ok s

/-- What follows a plain prompt and the one space behind it. -/
def fragment (s : String) : String :=
  match s.toList.drop 4 with
  | ' ' :: rest => .ofList rest
  | rest => .ofList rest

/-! ### Plain prompts have no number -/

theorem isNumbered_of_startsWith {s : String}
    (h : startsWith "iex>" s ∨ startsWith "...>" s) : isNumbered s = false := by
  have hno : hasNumber s = false := by
    simp only [startsWith, List.isPrefixOf_iff_prefix] at h
    rcases h with ⟨rest, h⟩ | ⟨rest, h⟩ <;> simp [hasNumber, startsWith, ← h, List.isPrefixOf]
  rw [isNumbered, hno, Bool.false_and]

theorem startsWith_of_dropNumber {line : Int} {s plain : String}
    (h : dropNumber line s = .ok plain) :
    startsWith "iex>" plain ∨ startsWith "...>" plain := by
  simp only [dropNumber] at h
  split at h
  · next text hplain =>
    cases h
    simp only [dropNumber?, Option.ite_none_right_eq_some, Option.map_eq_some_iff] at hplain
    obtain ⟨hnumber, rest, -, rfl⟩ := hplain
    simp only [hasNumber, startsWith, Bool.or_eq_true, List.isPrefixOf_iff_prefix] at hnumber
    rcases hnumber with ⟨more, h⟩ | ⟨more, h⟩
    · exact Or.inl (by simp [startsWith, ← h])
    · exact Or.inr (by simp [startsWith, ← h])
  · cases h

end DocExamples.Prompt
