import DocExamples.Job
import DocExamples.Proofs.WholeNumbers

/-!
# Jobs keep what they carry

A job travels as client data, and its identifier travels as text.  The identifiers that can be read
from any text at all are described by `Identifier.IsWritten`, and each of them is read back from its
own written form (`parse_eq_ok_iff_isWritten`).  So nothing of a job is lost on its way
(`ofJson_toJson`).
-/

namespace DocExamples.Text

/-! ### Trimming -/

theorem toList_trim (s : String) :
    (trim s).toList = ((s.toList.dropWhile isBlank).reverse.dropWhile isBlank).reverse := by
  rw [trim, trimEnd, String.toList_ofList, toList_trimStart]

/-- A trimmed text starts with no white space. -/
theorem not_isBlank_of_trim {s : String} {c : Char} {cs : List Char}
    (h : (trim s).toList = c :: cs) : isBlank c = false := by
  have hprefix : c :: cs <+: s.toList.dropWhile isBlank := by
    rw [← h, toList_trim, ← List.reverse_suffix, List.reverse_reverse]
    exact List.dropWhile_suffix _
  obtain ⟨rest, hrest⟩ := hprefix
  have hhead := List.head?_dropWhile_not isBlank s.toList
  rw [← hrest] at hhead
  exact hhead

/-- A text without white space at its ends is not changed by trimming. -/
theorem trim_eq_self {s : String} {first last : Char} {front back : List Char}
    (hfront : s.toList = first :: back) (hback : s.toList = front ++ [last])
    (hfirst : isBlank first = false) (hlast : isBlank last = false) : trim s = s := by
  apply String.toList_injective
  have hstart : s.toList.dropWhile isBlank = s.toList := by
    rw [hfront, List.dropWhile_cons, hfirst]
    rfl
  have hend : (front ++ [last]).reverse.dropWhile isBlank = (front ++ [last]).reverse := by
    rw [List.reverse_append, List.reverse_singleton, List.singleton_append, List.dropWhile_cons,
      hlast]
    rfl
  rw [toList_trim, hstart, hback, hend, List.reverse_reverse]

end DocExamples.Text

namespace DocExamples.Identifier

open Text

/-! ### The last separator -/

section SplitLast

variable {sep : Char} {cs before after : List Char}

theorem splitLast_of_not_mem (h : sep ∉ cs) : splitLast sep cs = none := by
  induction cs with
  | nil => rfl
  | cons c cs ih =>
    obtain ⟨hc, hcs⟩ := List.ne_and_not_mem_of_not_mem_cons h
    rw [splitLast, ih hcs]
    exact if_neg (Ne.symm hc)

theorem splitLast_append (h : sep ∉ after) :
    splitLast sep (before ++ sep :: after) = some (before, after) := by
  induction before with
  | nil =>
    rw [List.nil_append, splitLast, splitLast_of_not_mem h]
    exact if_pos rfl
  | cons c before ih => rw [List.cons_append, splitLast, ih]

theorem eq_of_splitLast (h : splitLast sep cs = some (before, after)) :
    cs = before ++ sep :: after := by
  induction cs generalizing before with
  | nil => cases h
  | cons c cs ih =>
    rw [splitLast] at h
    split at h
    · next front back hrest =>
      cases h
      rw [ih hrest, List.cons_append]
    · split at h
      · next hc =>
        cases h
        rw [hc, List.nil_append]
      · cases h

end SplitLast

/-! ### Identifiers with a written form -/

/-- An identifier that some text writes: the module, or a callable whose name is not empty and
starts with no white space, with a number of arguments that has at most 4300 digits. -/
inductive IsWritten : Identifier → Prop where
  | moduledoc : IsWritten .moduledoc
  | callable {first : Char} {rest : List Char} {arity : Nat} (hfirst : isBlank first = false)
      (harity : arity < 10 ^ mostDigits) :
      IsWritten (.callable (.ofList (first :: rest)) arity)

theorem isWritten_of_parse {s : String} {i : Identifier} (h : parse s = .ok i) : i.IsWritten := by
  unfold parse at h
  simp only at h
  split at h
  · cases h
    exact .moduledoc
  · split at h
    · next first rest a as hsplit =>
      split at h
      · next hdigits =>
        split at h
        · next n hread =>
          cases h
          have hbody := eq_of_splitLast hsplit
          obtain ⟨m, rfl, hm⟩ := exists_of_readInteger (List.all_eq_true.mp hdigits) hread
          exact .callable (not_isBlank_of_trim hbody) hm
        · cases h
      · cases h
    · cases h

theorem slash_not_mem_toDigits (n : Nat) : '/' ∉ Nat.toDigits 10 n := by
  intro h
  have hdigit := Nat.isDigit_of_mem_toDigits (by decide) (by decide) h
  cases hdigit

theorem toList_text_callable (name : List Char) (n : Nat) :
    (text (.callable (.ofList name) n)).toList = name ++ '/' :: Nat.toDigits 10 n := by
  change (String.ofList name ++ "/" ++ n.repr).toList = _
  rw [String.toList_append, String.toList_append, String.toList_ofList, Nat.toList_repr,
    List.append_assoc]
  rfl

theorem trim_text_callable {first : Char} {rest : List Char} {n : Nat}
    (hfirst : isBlank first = false) :
    trim (text (.callable (.ofList (first :: rest)) n)) =
      text (.callable (.ofList (first :: rest)) n) := by
  have hchars := toList_text_callable (first :: rest) n
  rcases List.eq_nil_or_concat (Nat.toDigits 10 n) with hnil | ⟨front, last, hlast⟩
  · exact absurd hnil Nat.toDigits_ne_nil
  · have hdigit : last ∈ Nat.toDigits 10 n := by simp [hlast]
    have hblank := not_isBlank_ascii (Nat.isDigit_of_mem_toDigits (by decide) (by decide) hdigit)
    have hback : (text (.callable (.ofList (first :: rest)) n)).toList =
        (first :: rest ++ '/' :: front) ++ [last] := by
      rw [hchars, hlast]
      simp
    exact trim_eq_self hchars hback hfirst hblank

/-- What some text writes is read from its own written form. -/
theorem parse_text {i : Identifier} (h : i.IsWritten) : parse i.text = .ok i := by
  cases h with
  | moduledoc => rfl
  | @callable first rest n hfirst hn =>
    have hchars := toList_text_callable (first :: rest) n
    have hother : text (.callable (.ofList (first :: rest)) n) ≠ moduledocText := by
      intro heq
      have hslash : '/' ∈ moduledocText.toList := by
        rw [← heq, hchars]
        simp
      revert hslash
      decide
    have hdigits : ∀ c ∈ Nat.toDigits 10 n, isDigit c = true := by
      intro c hc
      exact isDigit_ascii (Nat.isDigit_of_mem_toDigits (by decide) (by decide) hc)
    have hread : readInteger (.ofList (Nat.toDigits 10 n)) = .ok (n : Int) := readInteger_repr hn
    have hsplit : splitLast '/' (first :: rest ++ '/' :: Nat.toDigits 10 n) =
        some (first :: rest, Nat.toDigits 10 n) := splitLast_append (slash_not_mem_toDigits n)
    unfold parse
    simp only [trim_text_callable hfirst, if_neg hother, hchars, hsplit]
    cases harity : Nat.toDigits 10 n with
    | nil => exact absurd harity Nat.toDigits_ne_nil
    | cons d ds =>
      rw [harity] at hdigits hread
      simp only [List.all_eq_true.mpr hdigits, hread]
      rfl

/-- An identifier is read from its own written form exactly if it is read from any text. -/
theorem isWritten_iff (i : Identifier) : i.IsWritten ↔ ∃ s, parse s = .ok i := by
  constructor
  · intro h
    exact ⟨i.text, parse_text h⟩
  · rintro ⟨s, h⟩
    exact isWritten_of_parse h

end DocExamples.Identifier

namespace DocExamples.Job

/-! ### Members -/

theorem member_of_get? {α : Type} {key : String} {f : Json → Option α} {j v : Json} {a : α}
    (hget : j.get? key = some v) (hread : f v = some a) : member key f j = .ok a := by
  rw [member, hget]
  simp only [hread]

theorem nullable_ofOption (s : Option String) : nullable (Json.ofOption .str s) = some s := by
  cases s with
  | none => rfl
  | some s => rfl

theorem texts_ofList (items : List String) : texts (Json.ofList .str items) = some items := by
  have hitems : (items.map Json.str).mapM Json.str? = some items := by
    induction items with
    | nil => rfl
    | cons s items ih =>
      rw [List.map_cons, List.mapM_cons, ih]
      rfl
  exact hitems

theorem exampleOf_exampleJson (e : Example) : exampleOf (exampleJson e) = .ok e := by
  have hsource : member "source_lines" texts (exampleJson e) = .ok e.source :=
    member_of_get? rfl (texts_ofList e.source)
  have hexpected : member "expected_raw" Json.str? (exampleJson e) = .ok e.expected :=
    member_of_get? rfl rfl
  have hdisplay : member "display_text" Json.str? (exampleJson e) = .ok e.display :=
    member_of_get? rfl rfl
  rw [exampleOf, hsource, hexpected, hdisplay]
  rfl

theorem mapM_exampleOf (examples : List Example) :
    (examples.map exampleJson).mapM exampleOf = .ok examples := by
  induction examples with
  | nil => rfl
  | cons e examples ih =>
    rw [List.map_cons, List.mapM_cons, exampleOf_exampleJson, ih]
    rfl

/-! ### Jobs -/

/-- A job is read back as it was written if its identifier is. -/
theorem ofJson_toJson_eq (job : Job) :
    ofJson job.toJson =
      ((Identifier.parse job.group.identifier.text).mapError JobFault.identifier).map fun i =>
        ⟨job.place, { job.group with identifier := i }⟩ := by
  have hstart : member "start_line" integer job.toJson = .ok job.group.startLine :=
    member_of_get? rfl rfl
  have hidentifier : member "identifier" Json.str? job.toJson = .ok job.group.identifier.text :=
    member_of_get? rfl rfl
  have hpairs : member "pairs" items job.toJson = .ok (job.group.examples.map exampleJson) :=
    member_of_get? rfl rfl
  have hname : member "name" nullable job.toJson = .ok job.place.name :=
    member_of_get? rfl (nullable_ofOption job.place.name)
  have hfile : member "file" nullable job.toJson = .ok job.place.file :=
    member_of_get? rfl (nullable_ofOption job.place.file)
  simp only [ofJson, hstart, hidentifier, hpairs, hname, hfile, bind, Except.bind]
  cases Identifier.parse job.group.identifier.text with
  | error fault => rfl
  | ok i =>
    simp only [Except.mapError, mapM_exampleOf]
    rfl

/-- **Nothing of a job is lost on its way.**  A group whose identifier is the module, or was read
from any text, comes back with its place, its line and its examples; a name or a file that is not
known is null on the way.  The identifier is read from its own written form, whatever text it was
first read from. -/
theorem ofJson_toJson {g : Group}
    (h : g.identifier = .moduledoc ∨ ∃ s, Identifier.parse s = .ok g.identifier)
    (place : Option Place) :
    ofJson (toJson ⟨place.getD {}, g⟩) = .ok ⟨place.getD {}, g⟩ ∧
    Identifier.parse g.identifier.text = .ok g.identifier ∧
    (toJson ⟨place.getD {}, g⟩).get? "name" = some (Json.ofOption .str (place.bind (·.name))) ∧
    (toJson ⟨place.getD {}, g⟩).get? "file" = some (Json.ofOption .str (place.bind (·.file))) := by
  have hread : Identifier.parse g.identifier.text = .ok g.identifier := by
    rcases h with hmodule | hwritten
    · rw [hmodule]
      rfl
    · exact Identifier.parse_text ((Identifier.isWritten_iff _).mpr hwritten)
  refine ⟨?_, hread, ?_⟩
  · rw [ofJson_toJson_eq, hread]
    rfl
  · cases place with
    | none => exact ⟨rfl, rfl⟩
    | some place => exact ⟨rfl, rfl⟩

/-- A group of a callable whose name holds a slash and ends in a space. -/
def sampleGroup : Group where
  startLine := -3
  identifier := .callable "to/from " 3
  examples := [⟨["x = 1", "x +"], "", "iex> x = 1\niex> x +"⟩, ⟨["x"], "1\n2", ""⟩]

/-- Its number of arguments was read from Arabic digits with a zero in front. -/
theorem ofJson_sampleGroup :
    Identifier.parse "\t to/from /٠٣\n" = .ok sampleGroup.identifier ∧
    sampleGroup.identifier.text = "to/from /3" ∧
    ofJson (toJson ⟨{ name := some "Sums" }, sampleGroup⟩) =
      .ok ⟨{ name := some "Sums" }, sampleGroup⟩ := by
  have hread : Identifier.parse "\t to/from /٠٣\n" = .ok sampleGroup.identifier := rfl
  exact ⟨hread, rfl, (ofJson_toJson (Or.inr ⟨_, hread⟩) (some { name := some "Sums" })).1⟩

end DocExamples.Job
