import DocExamples.Expectation
import Mathlib.Data.List.Basic
import Mathlib.Data.List.TakeWhile

/-!
# Texts of expected results

An expected text is empty, or it states an exception, a shown value or a source, and its first
characters decide which.  The name of a shown value is taken apart into pieces
(`endsShownName_iff`), and an exception into its name and its message
(`ofText_eq_exception_iff`).  So every text states exactly one thing, and what it states is written
in it (`ofText_states`).
-/

namespace DocExamples.Expectation

open Text

/-! ### Names of shown values -/

def IsUpperLetter (c : Char) : Prop := 'A' ≤ c ∧ c ≤ 'Z'

/-- A letter, a digit or an underscore; letters and digits are those of ASCII. -/
def IsNameChar (c : Char) : Prop :=
  IsUpperLetter c ∨ ('a' ≤ c ∧ c ≤ 'z') ∨ ('0' ≤ c ∧ c ≤ '9') ∨ c = '_'

/-- What a name is put together from: single characters, and points that an upper case letter
follows. -/
inductive IsNamePiece : List Char → Prop where
  | char {c : Char} (h : IsNameChar c) : IsNamePiece [c]
  | point {c : Char} (h : IsUpperLetter c) : IsNamePiece ['.', c]

/-- The text starts as a shown value does. -/
def IsShownForm (s : String) : Prop :=
  ∃ (first : Char) (pieces : List (List Char)) (rest : List Char),
    IsUpperLetter first ∧ (∀ piece ∈ pieces, IsNamePiece piece) ∧
      s.toList = '#' :: first :: (pieces.flatten ++ '<' :: rest)

theorem isUpper_iff (c : Char) : c.isUpper = true ↔ IsUpperLetter c := by
  unfold Char.isUpper
  rw [decide_eq_true_iff]
  rfl

theorem isNameChar_iff (c : Char) : (c.isAlphanum || c = '_') = true ↔ IsNameChar c := by
  unfold Char.isAlphanum Char.isAlpha Char.isLower Char.isDigit
  simp only [Bool.or_eq_true, Bool.and_eq_true, decide_eq_true_eq, isUpper_iff, or_assoc]
  rfl

theorem endsShownName_append {piece : List Char} (h : IsNamePiece piece) (rest : List Char) :
    endsShownName (piece ++ rest) = endsShownName rest := by
  cases h with
  | @char c h =>
    have hmark : c ≠ '<' := by
      rintro rfl
      revert h
      unfold IsNameChar IsUpperLetter
      decide
    have hpoint : c ≠ '.' := by
      rintro rfl
      revert h
      unfold IsNameChar IsUpperLetter
      decide
    rw [List.singleton_append, endsShownName.eq_4 _ _ hmark fun _ _ heq => absurd heq hpoint,
      (isNameChar_iff c).mpr h, Bool.true_and]
  | @point c h =>
    change (c.isUpper && endsShownName rest) = _
    rw [(isUpper_iff c).mpr h, Bool.true_and]

theorem endsShownName_iff (cs : List Char) :
    endsShownName cs = true ↔ ∃ (pieces : List (List Char)) (rest : List Char),
      (∀ piece ∈ pieces, IsNamePiece piece) ∧ cs = pieces.flatten ++ '<' :: rest := by
  constructor
  · fun_induction endsShownName cs with
    | case1 =>
      intro h
      cases h
    | case2 rest =>
      intro _
      exact ⟨[], rest, by simp, rfl⟩
    | case3 c rest ih =>
      intro h
      obtain ⟨hc, hrest⟩ := Bool.and_eq_true_iff.mp h
      obtain ⟨pieces, after, hpieces, rfl⟩ := ih hrest
      refine ⟨['.', c] :: pieces, after, ?_, rfl⟩
      exact List.forall_mem_cons.mpr ⟨.point ((isUpper_iff c).mp hc), hpieces⟩
    | case4 c rest _ _ ih =>
      intro h
      obtain ⟨hc, hrest⟩ := Bool.and_eq_true_iff.mp h
      obtain ⟨pieces, after, hpieces, rfl⟩ := ih hrest
      refine ⟨[c] :: pieces, after, ?_, rfl⟩
      exact List.forall_mem_cons.mpr ⟨.char ((isNameChar_iff c).mp hc), hpieces⟩
  · rintro ⟨pieces, rest, hpieces, rfl⟩
    induction pieces with
    | nil => rfl
    | cons piece pieces ih =>
      obtain ⟨hpiece, hpieces⟩ := List.forall_mem_cons.mp hpieces
      rw [List.flatten_cons, List.append_assoc, endsShownName_append hpiece]
      exact ih hpieces

theorem isShown_iff (s : String) : isShown s = true ↔ IsShownForm s := by
  unfold isShown IsShownForm
  split
  · next c cs hs =>
    rw [Bool.and_eq_true, isUpper_iff, endsShownName_iff, hs]
    constructor
    · rintro ⟨hc, pieces, rest, hpieces, rfl⟩
      exact ⟨c, pieces, rest, hc, hpieces, rfl⟩
    · rintro ⟨_, pieces, rest, hc, hpieces, heq⟩
      cases heq
      exact ⟨hc, pieces, rest, hpieces, rfl⟩
  · next hno =>
    refine iff_of_false Bool.false_ne_true ?_
    rintro ⟨c, pieces, rest, -, -, hs⟩
    exact hno _ _ hs

/-! ### Names of exceptions -/

section SplitName

variable {cs name rest : List Char}

theorem splitName_append (rest : List Char) (h : ')' ∉ name) :
    splitName (name ++ ')' :: rest) = (name, rest) := by
  induction name with
  | nil => rfl
  | cons c name ih =>
    obtain ⟨hc, hname⟩ := List.ne_and_not_mem_of_not_mem_cons h
    rw [List.cons_append, splitName, if_neg (Ne.symm hc), ih hname]

theorem splitName_of_not_mem (h : ')' ∉ name) : splitName name = (name, []) := by
  induction name with
  | nil => rfl
  | cons c name ih =>
    obtain ⟨hc, hname⟩ := List.ne_and_not_mem_of_not_mem_cons h
    rw [splitName, if_neg (Ne.symm hc), ih hname]

theorem eq_of_splitName (h : splitName cs = (name, rest)) :
    ')' ∉ name ∧ (cs = name ++ ')' :: rest ∨ cs = name ∧ rest = []) := by
  induction cs generalizing name with
  | nil =>
    cases h
    exact ⟨by simp, Or.inr ⟨rfl, rfl⟩⟩
  | cons c cs ih =>
    unfold splitName at h
    split at h
    · next hc =>
      cases h
      exact ⟨by simp, Or.inl (by rw [hc, List.nil_append])⟩
    · next hc =>
      cases hcs : splitName cs with
      | mk front back =>
        rw [hcs] at h
        cases h
        obtain ⟨hfront, hform⟩ := ih hcs
        refine ⟨List.not_mem_cons_of_ne_of_not_mem (Ne.symm hc) hfront, ?_⟩
        rcases hform with rfl | ⟨rfl, hrest⟩
        · exact Or.inl rfl
        · exact Or.inr ⟨rfl, hrest⟩

end SplitName

/-! ### Expected exceptions -/

/-- The text states an exception of this name, with this message.  A parenthesis that is not closed
leaves no message. -/
structure StatesException (s name message : String) : Prop where
  noClosing : ')' ∉ name.toList
  noBlank : ∀ c ∈ message.toList.head?, isBlank c = false
  form : (∃ blanks : String, (∀ c ∈ blanks.toList, isBlank c = true) ∧
      s = exceptionMark ++ name ++ ")" ++ blanks ++ message) ∨
    s = exceptionMark ++ name ∧ message = ""

theorem ofText_append (rest : String) :
    ofText (exceptionMark ++ rest) =
      .exception (.ofList (splitName rest.toList).1)
        (trimStart (.ofList (splitName rest.toList).2)) := by
  have hne : exceptionMark ++ rest ≠ "" := by
    intro h
    have hchars := congrArg String.toList h
    simp [exceptionMark] at hchars
  have hdrop : (exceptionMark ++ rest).toList.drop exceptionMark.length = rest.toList := by
    rw [String.toList_append, ← String.length_toList, List.drop_left]
  unfold ofText
  rw [if_neg hne, if_pos ((startsWith_iff _ _).mpr ⟨rest, rfl⟩), hdrop]

theorem statesException_append (rest : String) :
    StatesException (exceptionMark ++ rest) (.ofList (splitName rest.toList).1)
      (trimStart (.ofList (splitName rest.toList).2)) := by
  cases hsplit : splitName rest.toList with
  | mk name back =>
    obtain ⟨hname, hform⟩ := eq_of_splitName hsplit
    refine ⟨by rwa [String.toList_ofList], head?_trimStart _, ?_⟩
    rcases hform with hrest | ⟨hrest, rfl⟩
    · obtain ⟨blanks, hblanks, hback⟩ := exists_blanks_append_trimStart (.ofList back)
      refine Or.inl ⟨blanks, hblanks, ?_⟩
      calc exceptionMark ++ rest
        _ = exceptionMark ++ .ofList name ++ ")" ++ .ofList back := by
          apply String.toList_injective
          simp [hrest]
        _ = exceptionMark ++ .ofList name ++ ")" ++ (blanks ++ trimStart (.ofList back)) := by
          rw [← hback]
        _ = _ := String.append_assoc.symm
    · refine Or.inr ⟨?_, rfl⟩
      rw [← hrest, String.ofList_toList]

theorem StatesException.ofText_eq {s name message : String} (h : StatesException s name message) :
    ofText s = .exception name message := by
  obtain ⟨hname, hmessage, ⟨blanks, hblanks, rfl⟩ | ⟨rfl, rfl⟩⟩ := h
  · have hsplit : splitName (name ++ ")" ++ blanks ++ message).toList =
        (name.toList, (blanks ++ message).toList) := by
      rw [← splitName_append _ hname]
      simp
    have htrim : trimStart (blanks ++ message) = message := by
      rw [trimStart_append hblanks, trimStart_eq_self hmessage]
    have happend : exceptionMark ++ name ++ ")" ++ blanks ++ message =
        exceptionMark ++ (name ++ ")" ++ blanks ++ message) := by
      simp only [String.append_assoc]
    rw [happend, ofText_append, hsplit, String.ofList_toList, String.ofList_toList, htrim]
  · rw [ofText_append, splitName_of_not_mem hname, String.ofList_toList]
    rfl

theorem exists_statesException_iff {s : String} :
    (∃ name message, StatesException s name message) ↔ startsWith exceptionMark s = true := by
  rw [startsWith_iff]
  constructor
  · rintro ⟨name, message, -, -, ⟨blanks, -, rfl⟩ | ⟨rfl, -⟩⟩
    · exact ⟨name ++ ")" ++ blanks ++ message, by simp only [String.append_assoc]⟩
    · exact ⟨name, rfl⟩
  · rintro ⟨rest, rfl⟩
    exact ⟨_, _, statesException_append rest⟩

/-! ### What a text states -/

/-- The four things that a text can state. -/
inductive States : String → Expectation → Prop where
  | nothing : States "" .none
  | exception {s name message : String} (h : StatesException s name message) :
      States s (.exception name message)
  | shown {s : String} (h : IsShownForm s) : States s (.shown s)
  | value {s : String} (hne : s ≠ "") (hmark : startsWith exceptionMark s = false)
      (hform : ¬IsShownForm s) : States s (.value s)

theorem states_ofText (s : String) : States s (ofText s) := by
  cases hmark : startsWith exceptionMark s with
  | true =>
    obtain ⟨rest, rfl⟩ := (startsWith_iff _ s).mp hmark
    rw [ofText_append]
    exact .exception (statesException_append rest)
  | false =>
    unfold ofText
    by_cases hempty : s = ""
    · rw [if_pos hempty, hempty]
      exact .nothing
    · rw [if_neg hempty, if_neg (by simp [hmark])]
      by_cases hshown : isShown s = true
      · rw [if_pos hshown]
        exact .shown ((isShown_iff s).mp hshown)
      · rw [if_neg hshown]
        exact .value hempty hmark (mt (isShown_iff s).mpr hshown)

theorem States.ofText_eq {s : String} {x : Expectation} (h : States s x) : ofText s = x := by
  cases h with
  | nothing => rfl
  | exception h => exact h.ofText_eq
  | shown h =>
    -- A number sign is in front, so that the text is neither empty nor marked.
    obtain ⟨first, pieces, rest, -, -, hs⟩ := id h
    have hempty : s ≠ "" := by
      rintro rfl
      cases hs
    have hmark : startsWith exceptionMark s = false := by
      unfold startsWith
      rw [hs]
      rfl
    unfold ofText
    rw [if_neg hempty, if_neg (by simp [hmark]), if_pos ((isShown_iff s).mpr h)]
  | value hempty hmark hform =>
    unfold ofText
    rw [if_neg hempty, if_neg (by simp [hmark]), if_neg (mt (isShown_iff s).mp hform)]

theorem ofText_eq_iff {s : String} {x : Expectation} : ofText s = x ↔ States s x := by
  constructor
  · rintro rfl
    exact states_ofText s
  · intro h
    exact h.ofText_eq

theorem ofText_eq_exception_iff {s name message : String} :
    ofText s = .exception name message ↔ StatesException s name message := by
  rw [ofText_eq_iff]
  constructor
  · intro h
    cases h with
    | exception h => exact h
  · exact .exception

theorem eq_of_ofText_eq_value {s source : String} (h : ofText s = .value source) : source = s := by
  cases ofText_eq_iff.mp h
  rfl

theorem eq_of_ofText_eq_shown {s display : String} (h : ofText s = .shown display) :
    display = s := by
  cases ofText_eq_iff.mp h
  rfl

/-- **Every expected text states one thing, and loses nothing.**  The empty text states nothing; a
text with the mark of exceptions states a name and a message, with white space between them; a text
in shown form, and any other text, stands for itself. -/
theorem ofText_states :
    (∀ s, ofText s = .none ↔ s = "") ∧
    (∀ s, (∃ name message, ofText s = .exception name message) ↔ startsWith "** (" s = true) ∧
    (∀ s display, ofText s = .shown display ↔ display = s ∧ IsShownForm s) ∧
    (∀ s source, ofText s = .value source ↔
      source = s ∧ s ≠ "" ∧ startsWith "** (" s = false ∧ ¬IsShownForm s) ∧
    (∀ s name message, ofText s = .exception name message ↔ StatesException s name message) ∧
    ∀ name message, ')' ∉ name.toList → (∀ c ∈ message.toList.head?, isBlank c = false) →
      ofText ("** (" ++ name ++ ") " ++ message) = .exception name message := by
  refine ⟨?_, ?_, ?_, ?_, fun s name message => ofText_eq_exception_iff, ?_⟩
  · intro s
    rw [ofText_eq_iff]
    constructor
    · intro h
      cases h
      rfl
    · rintro rfl
      exact .nothing
  · intro s
    simp only [ofText_eq_exception_iff]
    exact exists_statesException_iff
  · intro s display
    rw [ofText_eq_iff]
    constructor
    · intro h
      cases h with
      | shown hform => exact ⟨rfl, hform⟩
    · rintro ⟨rfl, hform⟩
      exact .shown hform
  · intro s source
    rw [ofText_eq_iff]
    constructor
    · intro h
      cases h with
      | value hne hmark hform => exact ⟨rfl, hne, hmark, hform⟩
    · rintro ⟨rfl, hne, hmark, hform⟩
      exact .value hne hmark hform
  · intro name message hname hmessage
    rw [ofText_eq_exception_iff]
    have hspace : ∀ c ∈ " ".toList, isBlank c = true := List.forall_mem_singleton.mpr rfl
    refine ⟨hname, hmessage, Or.inl ⟨" ", hspace, ?_⟩⟩
    apply String.toList_injective
    simp [exceptionMark]

theorem ofText_sampleTexts :
    ofText "** (My.Error)\u2003 a (b)\n c" = .exception "My.Error" "a (b)\n c" ∧
    ofText "** (KeyError" = .exception "KeyError" "" ∧
    ofText "#A.B1<c" = .shown "#A.B1<c" ∧ ofText "#A.b1<c" = .value "#A.b1<c" ∧
    ofText ("** (" ++ "E (1" ++ ") " ++ "a) b") = .exception "E (1" "a) b" := by
  obtain ⟨-, -, hshown, hvalue, hexception, hread⟩ := ofText_states
  refine ⟨?_, ?_, ?_, ?_, ?_⟩
  · rw [hexception]
    have hblanks : ∀ c ∈ "\u2003 ".toList, isBlank c = true :=
      List.all_eq_true.mp (by decide +kernel)
    exact ⟨by decide +kernel, by rintro _ ⟨⟩; rfl, Or.inl ⟨"\u2003 ", hblanks, rfl⟩⟩
  · rw [hexception]
    exact ⟨by decide +kernel, by rintro _ ⟨⟩, Or.inr ⟨rfl, rfl⟩⟩
  · rw [hshown]
    have hletters : IsUpperLetter 'A' ∧ IsUpperLetter 'B' := by unfold IsUpperLetter; decide
    have hdigit : IsNameChar '1' := by unfold IsNameChar IsUpperLetter; decide
    refine ⟨rfl, 'A', [['.', 'B'], ['1']], ['c'], hletters.1, ?_, rfl⟩
    exact List.forall_mem_cons.mpr ⟨.point hletters.2, List.forall_mem_singleton.mpr (.char hdigit)⟩
  · rw [hvalue, ← isShown_iff]
    decide +kernel
  · exact hread "E (1" "a) b" (by decide +kernel) (by rintro _ ⟨⟩; rfl)

end DocExamples.Expectation
