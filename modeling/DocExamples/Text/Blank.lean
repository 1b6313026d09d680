/-!
White space.

A margin is made of white space, and most readers of the library trim it.  White space is a
fixed set of code points: the ASCII controls from tab to carriage return, the four separators
before the space, the space itself, and the blanks of the Unicode tables.  The zero-width space
and the byte order mark are not in it.
-/

namespace DocExamples.Text

/-! ### Code point ranges -/

/-- A character lies in one of the listed ranges of code points, ends included. -/
def inRanges (ranges : List (Nat × Nat)) (c : Char) : Bool :=
  ranges.any fun r => r.1 ≤ c.toNat && c.toNat ≤ r.2

/-- The code points that count as white space. -/
def blankRanges : List (Nat × Nat) :=
  [(0x09, 0x0D), (0x1C, 0x20), (0x85, 0x85), (0xA0, 0xA0), (0x1680, 0x1680), (0x2000, 0x200A),
   (0x2028, 0x2029), (0x202F, 0x202F), (0x205F, 0x205F), (0x3000, 0x3000)]

/-- A character that trimming removes. -/
def isBlank (c : Char) : Bool := inRanges blankRanges c

/-! ### Trimming -/

/-- The text from its first character that is not white space. -/
def trimStart (s : String) : String := .ofList (s.toList.dropWhile isBlank)

/-- The text up to its last character that is not white space. -/
def trimEnd (s : String) : String :=
  .ofList (s.toList.reverse.dropWhile isBlank).reverse

/-- The text without the white space at either end. -/
def trim (s : String) : String := trimEnd (trimStart s)

/-- How many white space characters the text starts with. -/
def leadingBlanks (s : String) : Nat := (s.toList.takeWhile isBlank).length

@[simp] theorem toList_trimStart (s : String) :
    (trimStart s).toList = s.toList.dropWhile isBlank := by
  simp only [trimStart, String.toList_ofList]

theorem head?_trimStart (s : String) : ∀ c ∈ (trimStart s).toList.head?, isBlank c = false := by
  intro c hc
  have hhead := List.head?_dropWhile_not isBlank s.toList
  rw [toList_trimStart] at hc
  rw [Option.mem_def.mp hc] at hhead
  exact hhead

theorem trimStart_eq_self {s : String} (h : ∀ c ∈ s.toList.head?, isBlank c = false) :
    trimStart s = s := by
  apply String.toList_inj.mp
  rw [toList_trimStart]
  cases hs : s.toList with
  | nil => rfl
  | cons c cs =>
    have hc : isBlank c = false := h c (by rw [hs]; rfl)
    simp [hc]

theorem trimStart_trimStart (s : String) : trimStart (trimStart s) = trimStart s :=
  trimStart_eq_self (head?_trimStart s)

theorem leadingBlanks_of_trimStart {s : String} (h : trimStart s = s) : leadingBlanks s = 0 := by
  have hcut : s.toList.takeWhile isBlank ++ s.toList.dropWhile isBlank = s.toList :=
    List.takeWhile_append_dropWhile
  rw [← toList_trimStart, h] at hcut
  have hlength := congrArg List.length hcut
  rw [List.length_append] at hlength
  rw [leadingBlanks]
  omega

theorem exists_blanks_append_trimStart (s : String) :
    ∃ blanks : String, (∀ c ∈ blanks.toList, isBlank c = true) ∧ s = blanks ++ trimStart s := by
  refine ⟨.ofList (s.toList.takeWhile isBlank), ?_, ?_⟩
  · intro c hc
    rw [String.toList_ofList] at hc
    exact List.all_eq_true.mp List.all_takeWhile c hc
  · apply String.toList_inj.mp
    rw [String.toList_append, String.toList_ofList, toList_trimStart,
      List.takeWhile_append_dropWhile]

section Lead

variable {lead : String} (hlead : ∀ c ∈ lead.toList, isBlank c = true) (s : String)

include hlead

theorem trimStart_append : trimStart (lead ++ s) = trimStart s := by
  rw [trimStart, trimStart, String.toList_append, List.dropWhile_append_of_pos hlead]

theorem leadingBlanks_append : leadingBlanks (lead ++ s) = lead.length + leadingBlanks s := by
  rw [leadingBlanks, leadingBlanks, String.toList_append, List.takeWhile_append_of_pos hlead,
    List.length_append, String.length_toList]

end Lead

/-! ### Taking a text apart -/

/-- The text starts with `lead`. -/
def startsWith (lead s : String) : Bool := lead.toList.isPrefixOf s.toList

theorem startsWith_iff (lead s : String) :
    startsWith lead s = true ↔ ∃ rest : String, s = lead ++ rest := by
  unfold startsWith
  rw [List.isPrefixOf_iff_prefix]
  constructor
  · rintro ⟨rest, hrest⟩
    refine ⟨.ofList rest, String.toList_inj.mp ?_⟩
    rw [String.toList_append, String.toList_ofList, hrest]
  · rintro ⟨rest, rfl⟩
    rw [String.toList_append]
    exact List.prefix_append _ _

/-- The text after its first `n` characters; a shorter text becomes empty. -/
def dropChars (n : Nat) (s : String) : String := .ofList (s.toList.drop n)

@[simp] theorem toList_dropChars (n : Nat) (s : String) :
    (dropChars n s).toList = s.toList.drop n := by
  simp only [dropChars, String.toList_ofList]

theorem dropChars_zero (s : String) : dropChars 0 s = s := by
  rw [dropChars, List.drop_zero, String.ofList_toList]

theorem dropChars_append (lead s : String) (margin : Nat) :
    dropChars (lead.length + margin) (lead ++ s) = dropChars margin s := by
  rw [dropChars, dropChars, String.toList_append, ← String.length_toList, ← List.drop_drop,
    List.drop_left]

/-- Behind the leading white space stands the trimmed text. -/
theorem dropChars_leadingBlanks (s : String) : dropChars (leadingBlanks s) s = trimStart s := by
  apply String.toList_inj.mp
  rw [toList_dropChars, toList_trimStart, leadingBlanks]
  induction s.toList with
  | nil => rfl
  | cons c cs ih =>
    by_cases h : isBlank c
    · simp only [List.takeWhile_cons, List.dropWhile_cons, h, if_true, List.length_cons,
        List.drop_succ_cons, ih]
    · simp [h]

end DocExamples.Text
