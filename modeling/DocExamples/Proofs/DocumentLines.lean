import DocExamples.Text.Lines
import Mathlib.Data.List.Basic

/-!
# Lines of joined documents

A documentation text is cut at line feeds, behind the folding of its line ends.  Both steps go
through at a line end between two texts (`documentLines_append`), and undo the writing of lines with
line ends of either kind (`documentLines_writeLines`).
-/

namespace DocExamples.Text

/-! ### Folding line ends -/

theorem foldCrlfOnto_append (more done cs : List Char) :
    foldCrlfOnto (done ++ more) cs = more.reverse ++ foldCrlfOnto done cs := by
  fun_induction foldCrlfOnto done cs with
  | case1 done => simp [foldCrlfOnto]
  | case2 done rest ih => rw [foldCrlfOnto, ← List.cons_append, ih]
  | case3 done c rest hno ih => rw [foldCrlfOnto.eq_3 _ _ _ hno, ← List.cons_append, ih]

@[simp] theorem foldCrlf_nil : foldCrlf [] = [] := rfl

theorem foldCrlf_crlf (rest : List Char) :
    foldCrlf ('\r' :: '\n' :: rest) = '\n' :: foldCrlf rest := by
  rw [foldCrlf, foldCrlfOnto]
  exact foldCrlfOnto_append ['\n'] [] rest

theorem foldCrlf_cons {c : Char} {rest : List Char} (h : c = '\r' → rest.head? ≠ some '\n') :
    foldCrlf (c :: rest) = c :: foldCrlf rest := by
  rw [foldCrlf, foldCrlfOnto.eq_3]
  · exact foldCrlfOnto_append [c] [] rest
  · rintro rest' rfl rfl
    exact h rfl rfl

/-- Folding goes through at a line feed, unless it would take a carriage return along. -/
theorem foldCrlf_append_newline (cs rest : List Char) (h : cs.getLast? ≠ some '\r') :
    foldCrlf (cs ++ '\n' :: rest) = foldCrlf cs ++ '\n' :: foldCrlf rest := by
  match cs with
  | [] => exact foldCrlf_cons (by simp)
  | [c] =>
    have hc : c ≠ '\r' := by simpa using h
    rw [List.singleton_append, foldCrlf_cons (by simp [hc]), foldCrlf_cons (by simp),
      foldCrlf_cons (by simp [hc])]
    rfl
  | c :: d :: more =>
    have hlast : (d :: more).getLast? ≠ some '\r' := by simpa [List.getLast?_cons_cons] using h
    by_cases hcrlf : c = '\r' ∧ d = '\n'
    · obtain ⟨rfl, rfl⟩ := hcrlf
      have hmore : more.getLast? ≠ some '\r' := by
        intro hr
        cases more with
        | nil => simp at hr
        | cons e more => exact hlast (by rw [List.getLast?_cons_cons, hr])
      simp only [List.cons_append, foldCrlf_crlf, foldCrlf_append_newline more rest hmore]
    · have hd : c = '\r' → d ≠ '\n' := fun hc hd => hcrlf ⟨hc, hd⟩
      have hcons : foldCrlf (c :: d :: more) = c :: foldCrlf (d :: more) :=
        foldCrlf_cons (by simpa using hd)
      have hrest := foldCrlf_append_newline (d :: more) rest hlast
      rw [List.cons_append, foldCrlf_cons (by simpa using hd), hrest, hcons, List.cons_append]

/-- Folding goes through at a carriage return and line feed pair, which it folds. -/
theorem foldCrlf_append_crlf (cs rest : List Char) :
    foldCrlf (cs ++ '\r' :: '\n' :: rest) = foldCrlf cs ++ '\n' :: foldCrlf rest := by
  match cs with
  | [] => exact foldCrlf_crlf rest
  | [c] =>
    rw [List.singleton_append, foldCrlf_cons (by simp), foldCrlf_crlf, foldCrlf_cons (by simp)]
    rfl
  | c :: d :: more =>
    by_cases hcrlf : c = '\r' ∧ d = '\n'
    · obtain ⟨rfl, rfl⟩ := hcrlf
      simp only [List.cons_append, foldCrlf_crlf, foldCrlf_append_crlf more rest]
    · have hd : c = '\r' → d ≠ '\n' := fun hc hd => hcrlf ⟨hc, hd⟩
      have hcons : foldCrlf (c :: d :: more) = c :: foldCrlf (d :: more) :=
        foldCrlf_cons (by simpa using hd)
      have hrest := foldCrlf_append_crlf (d :: more) rest
      rw [List.cons_append, foldCrlf_cons (by simpa using hd), hrest, hcons, List.cons_append]

theorem foldCrlf_append_return (cs : List Char) :
    foldCrlf (cs ++ ['\r']) = foldCrlf cs ++ ['\r'] := by
  suffices h : ∀ done, foldCrlfOnto done (cs ++ ['\r']) = foldCrlfOnto done cs ++ ['\r'] from h []
  intro done
  fun_induction foldCrlfOnto done cs with
  | case1 done => simp [foldCrlfOnto]
  | case2 done rest ih => rw [List.cons_append, List.cons_append, foldCrlfOnto, ih]
  | case3 done c rest hno ih =>
    rw [List.cons_append, foldCrlfOnto.eq_3, ih]
    intro rest' hc hrest
    cases rest with
    | nil => cases hrest
    | cons d more =>
      cases hrest
      exact hno more hc rfl

theorem foldCrlf_of_no_newline {cs : List Char} (h : '\n' ∉ cs) : foldCrlf cs = cs := by
  induction cs with
  | nil => rfl
  | cons c rest ih =>
    have hrest : '\n' ∉ rest := fun hr => h (by simp [hr])
    rw [foldCrlf_cons fun _ hhead => hrest (List.mem_of_mem_head? hhead), ih hrest]

theorem unifyNewlines_ne_nil {cs : List Char} (h : cs ≠ []) : unifyNewlines cs ≠ [] := by
  intro hnil
  rw [unifyNewlines, List.map_eq_nil_iff] at hnil
  match cs with
  | [c] =>
    rw [foldCrlf_cons (by simp)] at hnil
    cases hnil
  | c :: d :: rest =>
    by_cases hcrlf : c = '\r' ∧ d = '\n'
    · obtain ⟨rfl, rfl⟩ := hcrlf
      rw [foldCrlf_crlf] at hnil
      cases hnil
    · have hd : c = '\r' → (d :: rest).head? ≠ some '\n' := by
        intro hc hhead
        exact hcrlf ⟨hc, Option.some.inj hhead⟩
      rw [foldCrlf_cons hd] at hnil
      cases hnil

/-! ### Cutting -/

theorem splitAt_eq_splitOnP (sep : Char) (cs : List Char) :
    splitAt sep cs = cs.splitOnP (· = sep) := by
  induction cs with
  | nil => rfl
  | cons c rest ih =>
    rw [List.splitOnP_cons_eq_if_modifyHead, ← ih, splitAt, List.foldr_cons, ← splitAt]
    by_cases hc : c = sep
    · simp [hc]
    · obtain ⟨piece, more, hrest⟩ := List.exists_cons_of_ne_nil (splitAt_ne_nil sep rest)
      simp [hc, hrest]

theorem splitAt_append (sep : Char) (cs rest : List Char) :
    splitAt sep (cs ++ sep :: rest) = splitAt sep cs ++ splitAt sep rest := by
  simp only [splitAt_eq_splitOnP]
  exact List.splitOnP_append_cons cs rest (by simp)

theorem splitAt_of_not_mem {sep : Char} {cs : List Char} (h : sep ∉ cs) :
    splitAt sep cs = [cs] := by
  rw [splitAt_eq_splitOnP]
  refine List.splitOnP_eq_singleton fun c hc => ?_
  have : c ≠ sep := fun heq => h (heq ▸ hc)
  simpa using this

/-! ### Documents -/

theorem documentLines_of_not_mem {line : String} (h : '\n' ∉ line.toList) :
    documentLines line = [line] := by
  rw [documentLines, foldCrlf_of_no_newline h, splitAt_of_not_mem h, List.map_singleton,
    String.ofList_toList]

/-- A line feed between two texts is a cut. -/
theorem documentLines_append {before : String} (after : String)
    (h : before.toList.getLast? ≠ some '\r') :
    documentLines (before ++ "\n" ++ after) = documentLines before ++ documentLines after := by
  have hchars : (before ++ "\n" ++ after).toList = before.toList ++ '\n' :: after.toList := by
    simp
  rw [documentLines, hchars, foldCrlf_append_newline _ _ h, splitAt_append, List.map_append]
  rfl

/-! ### Written lines -/

/-- The text can stand on a line of its own. -/
def IsLine (s : String) : Prop := '\n' ∉ s.toList ∧ s.toList.getLast? ≠ some '\r'

instance (s : String) : Decidable (IsLine s) := inferInstanceAs (Decidable (_ ∧ _))

theorem IsLine.append {s t : String} (hs : IsLine s) (ht : IsLine t) : IsLine (s ++ t) := by
  refine ⟨?_, ?_⟩
  · simp [hs.1, ht.1]
  · rw [String.toList_append, List.getLast?_append]
    have hlast := ht.2
    cases h : t.toList.getLast? with
    | none => simpa using hs.2
    | some c => simpa [h] using hlast

theorem isLine_of_not_mem {s : String} (hnewline : '\n' ∉ s.toList) (hreturn : '\r' ∉ s.toList) :
    IsLine s :=
  ⟨hnewline, fun h => hreturn (List.mem_of_getLast? h)⟩

/-- The end of a line, with or without a carriage return. -/
def lineEnd (crlf : Bool) : String := if crlf then "\r\n" else "\n"

/-- The lines as one text: `crlf` gives the end of each line, and the last line has one only if the
text is closed. -/
def writeLines (crlf : Nat → Bool) (closed : Bool) : List String → String
  | [] => ""
  | [line] => if closed then line ++ lineEnd (crlf 0) else line
  | line :: next :: more =>
    line ++ lineEnd (crlf 0) ++ writeLines (fun i => crlf (i + 1)) closed (next :: more)

theorem documentLines_of_isLine {line : String} (h : IsLine line) :
    documentLines line = [line] :=
  documentLines_of_not_mem h.1

theorem documentLines_cons {line : String} (crlf : Bool) (after : String) (h : IsLine line) :
    documentLines (line ++ lineEnd crlf ++ after) = line :: documentLines after := by
  cases crlf with
  | false =>
    have hcut := documentLines_append after h.2
    rwa [documentLines_of_isLine h] at hcut
  | true =>
    have hchars : (line ++ lineEnd true ++ after).toList =
        line.toList ++ '\r' :: '\n' :: after.toList := by
      simp [lineEnd]
    rw [documentLines, hchars, foldCrlf_append_crlf, splitAt_append, foldCrlf_of_no_newline h.1,
      splitAt_of_not_mem h.1, List.singleton_append, List.map_cons, String.ofList_toList]
    rfl

/-- Written lines are read back, with at most one empty line behind them. -/
theorem documentLines_writeLines (crlf : Nat → Bool) (closed : Bool) {lines : List String}
    (h : ∀ line ∈ lines, IsLine line) :
    ∃ rest, (∀ line ∈ rest, line = "") ∧
      documentLines (writeLines crlf closed lines) = lines ++ rest := by
  induction lines generalizing crlf with
  | nil => exact ⟨[""], by simp, rfl⟩
  | cons line more ih =>
    have hline := h line (by simp)
    have hmore : ∀ l ∈ more, IsLine l := fun l hl => h l (by simp [hl])
    cases more with
    | nil =>
      cases closed with
      | false => exact ⟨[], by simp, documentLines_of_isLine hline⟩
      | true =>
        refine ⟨[""], by simp, ?_⟩
        have hcut := documentLines_cons (crlf 0) "" hline
        rwa [String.append_empty] at hcut
    | cons next more =>
      obtain ⟨rest, hrest, hlines⟩ := ih (fun i => crlf (i + 1)) hmore
      refine ⟨rest, hrest, ?_⟩
      rw [writeLines, documentLines_cons _ _ hline, hlines]
      rfl

end DocExamples.Text
