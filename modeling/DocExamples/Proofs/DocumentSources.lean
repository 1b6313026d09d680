import DocExamples.Extraction
import DocExamples.Proofs.DocumentGap
import DocExamples.Proofs.EncodedText
import DocExamples.Proofs.ExpectedLines
import DocExamples.Proofs.WrittenFaults

/-!
# Documents sent and documents read

A document may be sent as a text or named as a file.  A file is read from its bytes, and every line
end is read as a line feed, also a carriage return that stands alone; in a text that is sent such a
carriage return is a character like any other.  So both give the same tests if none stands alone,
and the main statement says where they differ otherwise (`sameTests_of_sources`).
-/

namespace DocExamples.Text

/-! ### Carriage returns that stand alone -/

/-- A carriage return stands in the text without a line feed behind it. -/
def hasLoneReturn : List Char → Bool
  | [] => false
  | c :: rest => decide (c = '\r' ∧ rest.head? ≠ some '\n') || hasLoneReturn rest

theorem hasLoneReturn_cons (c : Char) (rest : List Char) :
    hasLoneReturn (c :: rest) = true ↔
      (c = '\r' ∧ rest.head? ≠ some '\n') ∨ hasLoneReturn rest = true := by
  rw [hasLoneReturn, Bool.or_eq_true, decide_eq_true_eq]

theorem mem_foldCrlf_iff (cs : List Char) : '\r' ∈ foldCrlf cs ↔ hasLoneReturn cs = true := by
  match cs with
  | [] => simp [hasLoneReturn]
  | [c] =>
    rw [foldCrlf_cons (by simp), foldCrlf_nil, List.mem_singleton, hasLoneReturn_cons]
    simp [hasLoneReturn, eq_comm]
  | c :: d :: rest =>
    by_cases hcrlf : c = '\r' ∧ d = '\n'
    · obtain ⟨rfl, rfl⟩ := hcrlf
      have hfirst : '\r' ∈ foldCrlf ('\r' :: '\n' :: rest) ↔ '\r' ∈ foldCrlf rest := by
        rw [foldCrlf_crlf]
        simp
      rw [hfirst, mem_foldCrlf_iff rest, hasLoneReturn_cons, hasLoneReturn_cons]
      simp
    · have hd : c = '\r' → (d :: rest).head? ≠ some '\n' := by
        intro hc hhead
        exact hcrlf ⟨hc, Option.some.inj hhead⟩
      rw [foldCrlf_cons hd, List.mem_cons, mem_foldCrlf_iff (d :: rest), hasLoneReturn_cons c]
      constructor
      · rintro (rfl | h)
        · exact Or.inl ⟨rfl, hd rfl⟩
        · exact Or.inr h
      · rintro (⟨rfl, -⟩ | h)
        · exact Or.inl rfl
        · exact Or.inr h

theorem foldCrlf_of_no_return {cs : List Char} (h : '\r' ∉ cs) : foldCrlf cs = cs := by
  induction cs with
  | nil => rfl
  | cons c rest ih =>
    rw [List.mem_cons, not_or] at h
    obtain ⟨hc, hrest⟩ := h
    rw [foldCrlf_cons fun heq => (hc heq.symm).elim, ih hrest]

theorem map_returns_of_not_mem {cs : List Char} (h : '\r' ∉ cs) :
    cs.map (fun c => if c = '\r' then '\n' else c) = cs := by
  refine (List.map_congr_left fun c hc => ?_).trans (List.map_id cs)
  rw [if_neg, id]
  rintro rfl
  exact h hc

theorem foldCrlf_gap {front rest : String} (hlast : front.toList.getLast? ≠ some '\r')
    (hrest : '\r' ∉ rest.toList) :
    foldCrlf (front ++ "\n\n\n" ++ rest).toList =
      foldCrlf front.toList ++ "\n\n\n".toList ++ rest.toList := by
  have hchars : (front ++ "\n\n\n" ++ rest).toList =
      front.toList ++ '\n' :: ('\n' :: '\n' :: rest.toList) := by simp
  have hbehind : '\r' ∉ '\n' :: '\n' :: rest.toList := by simpa using hrest
  rw [hchars, foldCrlf_append_newline _ _ hlast, foldCrlf_of_no_return hbehind]
  simp

/-! ### Texts as they are read from a file -/

/-- The text that a file with these characters is read as. -/
def readBack (s : String) : String := .ofList (unifyNewlines s.toList)

theorem return_not_mem_readBack (s : String) : '\r' ∉ (readBack s).toList := by
  rw [readBack, String.toList_ofList, unifyNewlines]
  intro hmem
  obtain ⟨c, -, hc⟩ := List.mem_map.mp hmem
  split at hc
  · cases hc
  · next hne => exact hne hc

theorem documentLines_readBack (s : String) :
    documentLines (readBack s) = (splitAt '\n' (unifyNewlines s.toList)).map String.ofList := by
  have hreturn := return_not_mem_readBack s
  rw [readBack, String.toList_ofList] at hreturn
  rw [documentLines, readBack, String.toList_ofList, foldCrlf_of_no_return hreturn]

theorem documentLines_readBack_of_no_lone {s : String} (h : hasLoneReturn s.toList = false) :
    documentLines (readBack s) = documentLines s := by
  have hreturn : '\r' ∉ foldCrlf s.toList := by
    rw [mem_foldCrlf_iff, h]
    exact Bool.false_ne_true
  rw [documentLines_readBack, unifyNewlines, map_returns_of_not_mem hreturn, documentLines]

/-- Every carriage return that stands alone ends a line of its own. -/
theorem length_documentLines_readBack (s : String) :
    (documentLines (readBack s)).length =
      (documentLines s).length + (foldCrlf s.toList).count '\r' := by
  have hcount : ∀ cs : List Char,
      (cs.map fun c => if c = '\r' then '\n' else c).count '\n' =
        cs.count '\n' + cs.count '\r' := by
    intro cs
    induction cs with
    | nil => rfl
    | cons c rest ih =>
      by_cases hreturn : c = '\r'
      · subst hreturn
        simp [ih]
        omega
      · by_cases hnewline : c = '\n'
        · subst hnewline
          simp [ih]
          omega
        · simp [ih, hreturn, hnewline]
  rw [documentLines_readBack, List.length_map, length_splitAt, unifyNewlines, hcount,
    documentLines, List.length_map, length_splitAt]
  omega

theorem length_foldCrlfOnto_le (done cs : List Char) :
    (foldCrlfOnto done cs).length ≤ done.length + cs.length := by
  fun_induction foldCrlfOnto done cs with
  | case1 done => rw [List.length_reverse, List.length_nil, Nat.add_zero]
  | case2 done rest ih =>
    simp only [List.length_cons] at ih ⊢
    omega
  | case3 done c rest _ ih =>
    simp only [List.length_cons] at ih ⊢
    omega

theorem length_readBack_le (s : String) : (readBack s).length ≤ s.length := by
  have hfold := length_foldCrlfOnto_le [] s.toList
  rw [List.length_nil, Nat.zero_add] at hfold
  rw [← String.length_toList, ← String.length_toList, readBack, String.toList_ofList,
    unifyNewlines, List.length_map]
  exact hfold

end DocExamples.Text

namespace DocExamples.Transcript

open Text Transducer Margin

/-! ### A last example -/

theorem extract_prompt (identifier : Identifier) (line : Int) :
    ∃ g, extract identifier "iex> 1" line = .ok [g] ∧ g.startLine = line + 1 := by
  have hlines : documentLines "iex> 1" = ["iex> 1"] := documentLines_of_not_mem (by simp)
  have htrim : trimStart "iex> 1" = "iex> 1" := rfl
  have hopens : Prompt.opens (trimStart "iex> 1") = true := rfl
  have hread : normalize ["iex> 1"] (line + 1) = .ok [⟨"iex> 1", line + 1⟩] := by
    rw [normalize_eq_feed, number_cons, number_nil,
      feed_cons_of_ok _ (settle_prose_of_opens _ hopens), htrim]
    rfl
  have hplain : [SourceLine.mk "iex> 1" (line + 1)].mapM plainLine =
      .ok [⟨"iex> 1", line + 1⟩] := by
    have hnumber : Prompt.isNumbered "iex> 1" = false := by decide
    simp [plainLine, Prompt.plain, hnumber]
  have hgroups : groupsOf identifier [⟨"iex> 1", line + 1⟩] =
      [⟨line + 1, identifier, [exampleOf [⟨"iex> 1", line + 1⟩]]⟩] := by
    have hopening : isOpening "iex> 1" = true := by decide
    rw [groupsOf_cons_opening identifier [] hopening, groupsInside_nil]
    rfl
  have hcheck : (groupsOf identifier [⟨"iex> 1", line + 1⟩]).forM checkGroup = .ok () := by
    apply forM_checkGroup
    rw [hgroups, List.forall_mem_singleton]
    exact List.countP_le_length
  refine ⟨⟨line + 1, identifier, [exampleOf [⟨"iex> 1", line + 1⟩]]⟩, ?_, rfl⟩
  rw [extract, hlines, hread, ← hgroups]
  exact scan_of_ok hplain hcheck

/-- What two empty lines join in a document. -/
theorem joins_extract (identifier : Identifier) {before : String} (after : String) (line : Int)
    (h : before.toList.getLast? ≠ some '\r') :
    Joins (extract identifier before line)
      (extract identifier after (line + (documentLines before).length + 2))
      (extract identifier (before ++ "\n\n\n" ++ after) line) := by
  have hstart : line + (documentLines before).length + 2 + 1 =
      line + 1 + (documentLines before).length + 2 := by omega
  simp only [extract, documentLines_gap after h, hstart]
  exact joins_gap identifier (documentLines before) (documentLines after) (line + 1)

section LoneReturns

variable {front : String} (hlast : front.toList.getLast? ≠ some '\r')

include hlast

theorem readBack_gap {rest : String} (hrest : '\r' ∉ rest.toList) :
    readBack (front ++ "\n\n\n" ++ rest) = readBack front ++ "\n\n\n" ++ rest := by
  apply String.toList_inj.mp
  rw [readBack, String.toList_ofList, unifyNewlines, foldCrlf_gap hlast hrest, List.map_append,
    List.map_append, map_returns_of_not_mem hrest, String.toList_append, String.toList_append,
    readBack, unifyNewlines]
  simp only [String.toList_ofList]
  rfl

/-- Behind a carriage return that stands alone the lines are counted differently. -/
theorem differs_behind_lone_return {groups : List Group}
    (hextract : extract .moduledoc front 0 = .ok groups)
    (hlone : '\r' ∈ foldCrlf front.toList) :
    ∃ found, extract .moduledoc (front ++ "\n\n\n" ++ "iex> 1") 0 = .ok found ∧
      extract .moduledoc (readBack (front ++ "\n\n\n" ++ "iex> 1")) 0 ≠ .ok found := by
  have hback : (readBack front).toList.getLast? ≠ some '\r' := fun h =>
    return_not_mem_readBack front (List.mem_of_getLast? h)
  obtain ⟨g, hg, hgline⟩ := extract_prompt .moduledoc (0 + (documentLines front).length + 2)
  obtain ⟨g', hg', hgline'⟩ :=
    extract_prompt .moduledoc (0 + (documentLines (readBack front)).length + 2)
  have hfound := ((joins_extract .moduledoc "iex> 1" 0 hlast).1 (groups ++ [g])).mpr
    ⟨groups, [g], hextract, hg, rfl⟩
  refine ⟨groups ++ [g], hfound, ?_⟩
  intro hsame
  rw [readBack_gap hlast (by simp)] at hsame
  obtain ⟨others, last, -, hlast', heq⟩ :=
    ((joins_extract .moduledoc "iex> 1" 0 hback).1 _).mp hsame
  -- Both end in the group of the last prompt, but on different lines.
  obtain rfl : [g'] = last := Except.ok.inj (hg'.symm.trans hlast')
  have hgroup : [g] = [g'] := List.append_inj_right' heq rfl
  obtain rfl : g = g' := List.head_eq_of_cons_eq hgroup
  have hmore : 0 < (foldCrlf front.toList).count '\r' := List.count_pos_iff.mpr hlone
  have hlength := length_documentLines_readBack front
  omega

end LoneReturns

end DocExamples.Transcript

namespace DocExamples.Extraction

open Text Transcript

/-! ### Requests for one document -/

/-- The tests of a document that was loaded. -/
def ofLoaded (name content : String) : Except Interruption Extraction := do
  let tests ← refuse { name := some name, file := some name } (Listing.ofDocument name [] content)
  return ⟨name, tests, some name⟩

theorem ofDocument_of_load {limits : DocumentLimits} {tree : FileTree} {text path : Option String}
    {doc : Document} (h : Document.load limits tree text path = .ok doc) :
    ofDocument limits tree text path = ofLoaded doc.name doc.content := by
  rw [ofDocument, h]
  rfl

section Sources

variable {limits : DocumentLimits} {tree : FileTree} {path s : String}
  (hsize : (s.length : Int) ≤ limits.maxSize)

theorem checkSize_of_le {content : String} (what : String)
    (h : (content.length : Int) ≤ limits.maxSize) : limits.checkSize what content = .ok () := by
  rw [DocumentLimits.checkSize, if_neg (Int.not_lt.mpr h)]

include hsize

theorem ofDocument_text : ofDocument limits tree (some s) none = ofLoaded Document.textName s := by
  have hload : Document.load limits tree (some s) none = .ok ⟨s, Document.textName, none⟩ := by
    simp only [Document.load, Option.filter_none, Document.ofText, checkSize_of_le "Text" hsize]
    rfl
  rw [ofDocument_of_load hload]

omit hsize in
theorem ne_empty_of_file {bytes : List UInt8}
    (h : tree.find (DocPath.ofText path) = .file bytes) : path ≠ "" := by
  rintro rfl
  have hempty : tree.find (DocPath.ofText "") = .directory := rfl
  rw [hempty] at h
  cases h

theorem ofDocument_file (hsuffix : (DocPath.ofText path).suffix ∈ limits.suffixes)
    (hfile : tree.find (DocPath.ofText path) = .file s.toUTF8.data.toList) :
    ofDocument limits tree none (some path) = ofLoaded path (readBack s) := by
  have hread : limits.checkSize "File" (readBack s) = .ok () := by
    apply checkSize_of_le
    have hshort := length_readBack_le s
    omega
  have hallowed : Document.checkSuffix limits (DocPath.ofText path).suffix = .ok () := by
    rw [Document.checkSuffix, if_pos (List.contains_iff_mem.mpr hsuffix)]
  have hbytes : Document.ofBytes limits path s.toUTF8.data.toList =
      .ok ⟨readBack s, path, some path⟩ := by
    rw [readBack] at hread ⊢
    simp only [Document.ofBytes, Utf8.decode_toUTF8, hread]
    rfl
  have hopen : Document.ofFile limits tree path = .ok ⟨readBack s, path, some path⟩ := by
    simp only [Document.ofFile, hallowed, hfile, hbytes]
    rfl
  have hload : Document.load limits tree none (some path) = .ok ⟨readBack s, path, some path⟩ := by
    have hgiven : (some path).filter (fun p => decide (p ≠ "")) = some path := by
      rw [Option.filter_some, if_pos]
      exact decide_eq_true (ne_empty_of_file hfile)
    simp only [Document.load, hgiven, hopen]
  rw [ofDocument_of_load hload]

end Sources

/-! ### The same tests -/

/-- Both requests find the same groups, or both are refused with one code and the same details, or
one exception escapes from both. -/
inductive SameTests : Except Interruption Extraction → Except Interruption Extraction → Prop where
  | found {x y : Extraction} (h : x.tests.map (·.group) = y.tests.map (·.group)) :
      SameTests (.ok x) (.ok y)
  | refused {r s : Refusal} (hcode : r.code = s.code) (hdetails : r.details = s.details) :
      SameTests (.error (.refused r)) (.error (.refused s))
  | raised {e : Raised} : SameTests (.error (.raised e)) (.error (.raised e))

theorem ofLoaded_of_ok (name : String) {content : String} {groups : List Group}
    (h : extract .moduledoc content 0 = .ok groups) :
    ∃ x, ofLoaded name content = .ok x ∧ x.tests.map (·.group) = groups := by
  have hgroups := Listing.map_group_number (fun _ n => name ++ " (" ++ toString n ++ ")") name []
    groups
  refine ⟨⟨name, _, some name⟩, ?_, hgroups⟩
  rw [ofLoaded, Listing.ofDocument, h]
  rfl

theorem ofLoaded_of_error {name content : String} {d : Defect}
    (h : extract .moduledoc content 0 = .error d) :
    ofLoaded name content = .error (.ofFault (d.fault ⟨some name, some name⟩)) := by
  rw [ofLoaded, Listing.ofDocument, h]
  rfl

theorem sameTests_of_defect (d : Defect) (place other : Place) :
    SameTests (.error (.ofFault (d.fault place))) (.error (.ofFault (d.fault other))) := by
  cases hfault : d.fault place with
  | error e =>
    rw [Defect.fault_eq_error_iff.mpr (Defect.fault_eq_error_iff.mp hfault)]
    exact .raised
  | ok f =>
    obtain ⟨hshort, hkind, hline, -, -⟩ := Defect.fault_eq_ok_iff.mp hfault
    cases hother : d.fault other with
    | error e => exact absurd (Defect.fault_eq_error_iff.mp hother).2 hshort
    | ok g =>
      obtain ⟨-, hkind', hline', -, -⟩ := Defect.fault_eq_ok_iff.mp hother
      refine .refused ?_ ?_
      · exact congrArg RefusalCode.ofFault (hkind.trans hkind'.symm)
      · rw [Refusal.ofFault, Refusal.ofFault, hline, hline']

/-- The name of a document has no part in what is found. -/
theorem sameTests_of_eq {content other : String} (name : String) (otherName : String)
    (h : extract .moduledoc content 0 = extract .moduledoc other 0) :
    SameTests (ofLoaded name content) (ofLoaded otherName other) := by
  cases hcontent : extract .moduledoc content 0 with
  | error d =>
    rw [ofLoaded_of_error hcontent, ofLoaded_of_error (h.symm.trans hcontent)]
    exact sameTests_of_defect d _ _
  | ok groups =>
    obtain ⟨x, hx, hfound⟩ := ofLoaded_of_ok name hcontent
    obtain ⟨y, hy, hother⟩ := ofLoaded_of_ok otherName (h.symm.trans hcontent)
    rw [hx, hy]
    exact .found (hfound.trans hother.symm)

theorem eq_ok_of_sameTests {content other name otherName : String} {groups : List Group}
    (hcontent : extract .moduledoc content 0 = .ok groups)
    (h : SameTests (ofLoaded name content) (ofLoaded otherName other)) :
    extract .moduledoc other 0 = .ok groups := by
  obtain ⟨x, hx, hfound⟩ := ofLoaded_of_ok name hcontent
  rw [hx] at h
  cases hother : extract .moduledoc other 0 with
  | error d =>
    rw [ofLoaded_of_error hother] at h
    cases h
  | ok others =>
    obtain ⟨y, hy, hotherFound⟩ := ofLoaded_of_ok otherName hother
    rw [hy] at h
    cases h with
    | found hsame => rw [← hotherFound, ← hsame, hfound]

/-- **A text and a file with its bytes give the same tests, if no carriage return stands alone.**
With such a carriage return they never do, once an example stands behind it and a gap: then its line
is counted differently. -/
theorem sameTests_of_sources {limits : DocumentLimits} {tree : FileTree} {path s : String}
    (hsize : (s.length : Int) ≤ limits.maxSize)
    (hsuffix : (DocPath.ofText path).suffix ∈ limits.suffixes)
    (hfile : tree.find (DocPath.ofText path) = .file s.toUTF8.data.toList) :
    (hasLoneReturn s.toList = false →
      SameTests (ofDocument limits tree (some s) none) (ofDocument limits tree none (some path))) ∧
    ∀ front groups, s = front ++ "\n\n\n" ++ "iex> 1" → front.toList.getLast? ≠ some '\r' →
      extract .moduledoc front 0 = .ok groups →
      (SameTests (ofDocument limits tree (some s) none) (ofDocument limits tree none (some path)) ↔
        hasLoneReturn front.toList = false) := by
  rw [ofDocument_text hsize, ofDocument_file hsize hsuffix hfile]
  have hagree : hasLoneReturn s.toList = false →
      SameTests (ofLoaded Document.textName s) (ofLoaded path (readBack s)) := by
    intro h
    apply sameTests_of_eq
    rw [extract, extract, documentLines_readBack_of_no_lone h]
  refine ⟨hagree, ?_⟩
  rintro front groups rfl hlast hextract
  constructor
  · intro hsame
    rw [← Bool.not_eq_true, ← mem_foldCrlf_iff]
    intro hlone
    obtain ⟨found, hfound, hdiffers⟩ := differs_behind_lone_return hlast hextract hlone
    exact hdiffers (eq_ok_of_sameTests hfound hsame)
  · intro hfront
    apply hagree
    rw [← Bool.not_eq_true, ← mem_foldCrlf_iff] at hfront ⊢
    rw [foldCrlf_gap hlast (by simp)]
    simpa using hfront

/-- A file with line ends of two characters. -/
def sampleDocument : String := "Sums\r\n\r\n    iex> 1 +\r\n    ...> 1\n    2\r\n"

/-- A file with a line end of one character, and an example behind it. -/
def sampleNotes : String := "Old\rnotes" ++ "\n\n\n" ++ "iex> 1"

def sampleTree : FileTree :=
  { files := [(["docs", "sums.md"], sampleDocument.toUTF8.data.toList),
      (["notes.md"], sampleNotes.toUTF8.data.toList)] }

theorem sameTests_of_sampleDocument :
    sampleTree.find (DocPath.ofText "docs/sums.md") =
      .file sampleDocument.toUTF8.data.toList ∧
    SameTests (ofDocument {} sampleTree (some sampleDocument) none)
      (ofDocument {} sampleTree none (some "docs/sums.md")) ∧
    sampleTree.find (DocPath.ofText "notes.md") = .file sampleNotes.toUTF8.data.toList ∧
    ¬SameTests (ofDocument {} sampleTree (some sampleNotes) none)
      (ofDocument {} sampleTree none (some "notes.md")) := by
  have hfile : sampleTree.find (DocPath.ofText "docs/sums.md") =
      .file sampleDocument.toUTF8.data.toList := by decide +kernel
  have hnotes : sampleTree.find (DocPath.ofText "notes.md") =
      .file sampleNotes.toUTF8.data.toList := by decide +kernel
  refine ⟨hfile, ?_, hnotes, ?_⟩
  · exact (sameTests_of_sources (by decide +kernel) (by decide +kernel) hfile).1 (by decide +kernel)
  · have hfront : extract .moduledoc "Old\rnotes" 0 = .ok [] := by decide +kernel
    rw [(sameTests_of_sources (by decide +kernel) (by decide +kernel) hnotes).2 "Old\rnotes" [] rfl
      (by decide +kernel) hfront]
    decide +kernel

/-- The second line of a file, in a text the rest of the first one. -/
def loneReturn : String := "iex> 1\r1"

def loneTree : FileTree := { files := [(["sums.md"], loneReturn.toUTF8.data.toList)] }

theorem tests_differ_at_lone_return :
    (loneReturn.length : Int) ≤ ({} : DocumentLimits).maxSize ∧
    (DocPath.ofText "sums.md").suffix ∈ ({} : DocumentLimits).suffixes ∧
    loneTree.find (DocPath.ofText "sums.md") = .file loneReturn.toUTF8.data.toList ∧
    extract .moduledoc loneReturn 0 =
      .ok [⟨1, .moduledoc, [⟨["1\r1"], "", "\niex> 1\r1\n"⟩]⟩] ∧
    extract .moduledoc (readBack loneReturn) 0 =
      .ok [⟨1, .moduledoc, [⟨["1"], "1", "\niex> 1\n1"⟩]⟩] ∧
    ¬SameTests (ofDocument {} loneTree (some loneReturn) none)
      (ofDocument {} loneTree none (some "sums.md")) := by
  have hsize : (loneReturn.length : Int) ≤ ({} : DocumentLimits).maxSize := by decide +kernel
  have hsuffix : (DocPath.ofText "sums.md").suffix ∈ ({} : DocumentLimits).suffixes := by
    decide +kernel
  have hfile : loneTree.find (DocPath.ofText "sums.md") =
      .file loneReturn.toUTF8.data.toList := by decide +kernel
  have htext : extract .moduledoc loneReturn 0 =
      .ok [⟨1, .moduledoc, [⟨["1\r1"], "", "\niex> 1\r1\n"⟩]⟩] := by decide +kernel
  have hread : extract .moduledoc (readBack loneReturn) 0 =
      .ok [⟨1, .moduledoc, [⟨["1"], "1", "\niex> 1\n1"⟩]⟩] := by decide +kernel
  refine ⟨hsize, hsuffix, hfile, htext, hread, ?_⟩
  rw [ofDocument_text hsize, ofDocument_file hsize hsuffix hfile]
  intro hsame
  have hsameText := eq_ok_of_sameTests htext hsame
  rw [hread] at hsameText
  have hgroups := Except.ok.inj hsameText
  simp at hgroups

end DocExamples.Extraction
