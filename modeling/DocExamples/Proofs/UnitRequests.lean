import DocExamples.Extraction
import DocExamples.Proofs.ExtractionFaults
import DocExamples.Proofs.JobPayloads
import DocExamples.Proofs.Listings

/-!
# Requests that raise

A client sends units as data of any shape, and whatever is wrong with them should be answered by a
refusal.  Three things are not: a line that is an infinite number, a text that is no string, and a
defect whose line has too many digits to be written down.  The relation `Extraction.Escapes` says
which of them is met, and the main statement is that every other request is carried out or refused
with a code that fits its fault (`ofRequest_answers_iff`).
-/

namespace DocExamples

open Transducer Transcript

namespace Request

/-! ### Reading units -/

/-- The exception that an infinite line raises. -/
def infiniteLine : Raised := .builtin "OverflowError" "cannot convert float infinity to integer"

/-- The data is an infinite number. -/
def IsInfinite (j : Json) : Prop :=
  ∃ text negative, j = .float text ∧ Text.Binary64.ofText text = .infinite negative

/-- The data is a unit with an identifier that can be read, at an infinite line. -/
def HasInfiniteLine (j : Json) : Prop :=
  ∃ members i, j = .obj members ∧
    identifier ((Json.lookup "identifier" members).getD (.str Identifier.moduledocText)) = .ok i ∧
    IsInfinite ((Json.lookup "line" members).getD (.int 0))

/-- The data cannot be read as a unit. -/
def IsUnreadable (j : Json) : Prop := ∃ p, unit j = .error p

theorem line_eq_raised_iff {j : Json} {e : Raised} :
    line j = .error (.raised e) ↔ IsInfinite j ∧ infiniteLine = e := by
  cases j with
  | float text =>
    cases hnumber : Text.Binary64.ofText text with
    | infinite negative =>
      have hinfinite : IsInfinite (.float text) := ⟨text, negative, rfl, hnumber⟩
      simp only [line, hnumber, Except.error.injEq, RequestProblem.raised.injEq, hinfinite,
        true_and]
      rfl
    | finite m e' => simp [line, hnumber, Text.Binary64.truncate, IsInfinite]
    | notANumber => simp [line, hnumber, Text.Binary64.truncate, IsInfinite]
  | str s => simp [line, mapError_eq_error_iff, IsInfinite]
  | null => simp [line, IsInfinite]
  | bool b => simp [line, IsInfinite]
  | int n => simp [line, IsInfinite]
  | arr items => simp [line, IsInfinite]
  | obj members => simp [line, IsInfinite]

theorem unit_obj (members : List (String × Json)) :
    unit (.obj members) = (do
      let i ← (identifier
        ((Json.lookup "identifier" members).getD (.str Identifier.moduledocText))).mapError .invalid
      let n ← line ((Json.lookup "line" members).getD (.int 0))
      match Json.lookup "text" members with
      | some text => return ⟨i, n, text⟩
      | none => throw (.invalid .missingText)) := rfl

theorem unit_eq_raised_iff {j : Json} {e : Raised} :
    unit j = .error (.raised e) ↔ HasInfiniteLine j ∧ infiniteLine = e := by
  by_cases hobject : ∃ members, j = .obj members
  · obtain ⟨members, rfl⟩ := hobject
    rw [unit_obj]
    constructor
    · intro h
      rcases bind_eq_error_iff.mp h with hidentifier | ⟨i, hidentifier, h⟩
      · obtain ⟨fault, -, hfault⟩ := mapError_eq_error_iff.mp hidentifier
        cases hfault
      · rcases bind_eq_error_iff.mp h with hline | ⟨n, -, htext⟩
        · obtain ⟨hinfinite, he⟩ := line_eq_raised_iff.mp hline
          exact ⟨⟨members, i, rfl, mapError_eq_ok_iff.mp hidentifier, hinfinite⟩, he⟩
        · split at htext
          · cases htext
          · cases htext
    · rintro ⟨⟨_, i, hmembers, hidentifier, hinfinite⟩, he⟩
      cases hmembers
      refine bind_eq_error_iff.mpr (Or.inr ⟨i, mapError_eq_ok_iff.mpr hidentifier, ?_⟩)
      exact bind_eq_error_iff.mpr (Or.inl (line_eq_raised_iff.mpr ⟨hinfinite, he⟩))
  · have hunit : unit j = .error (.invalid (.notObject j.typeName)) := by
      cases j with
      | obj members => exact absurd ⟨members, rfl⟩ hobject
      | _ => rfl
    rw [hunit]
    constructor
    · intro h
      cases h
    · rintro ⟨⟨members, _, rfl, -⟩, -⟩
      exact absurd ⟨members, rfl⟩ hobject

/-! ### Reading requests -/

theorem elements_eq_ok_iff {j : Json} {items : List Json} :
    elements j = .ok items ↔ j.elements? = some items := by
  rw [elements]
  split
  · next found hfound => simp [hfound]
  · next hnone => simp [hnone]

theorem elements_ne_raised (j : Json) (e : Raised) : elements j ≠ .error (.raised e) := by
  intro h
  unfold elements at h
  split at h
  · cases h
  · cases h

theorem identifiers_ne_raised (j : Json) (e : Raised) : identifiers j ≠ .error (.raised e) := by
  intro h
  rcases bind_eq_error_iff.mp h with helements | ⟨items, -, hitems⟩
  · exact elements_ne_raised j e helements
  · obtain ⟨item, -, hitem⟩ := (mapM_eq_error_iff_isFirst _ _).mp hitems
    obtain ⟨fault, -, hfault⟩ := mapError_eq_error_iff.mp hitem
    cases hfault

theorem kept_ne_raised (j : Json) (e : Raised) : kept j ≠ .error (.raised e) := by
  intro h
  unfold kept at h
  split at h
  · cases h
  · exact identifiers_ne_raised _ _ (map_eq_error_iff.mp h)

theorem leftOut_ne_raised (j : Json) (e : Raised) : leftOut j ≠ .error (.raised e) := by
  intro h
  unfold leftOut at h
  split at h
  · exact identifiers_ne_raised _ _ h
  · cases h

theorem read_eq_raised_iff {units only exclude : Json} {e : Raised} :
    read units only exclude = .error (.raised e) ↔
      ∃ items j, units.elements? = some items ∧ IsFirst IsUnreadable items j ∧
        HasInfiniteLine j ∧ infiniteLine = e := by
  constructor
  · intro h
    rcases bind_eq_error_iff.mp h with helements | ⟨items, helements, h⟩
    · exact absurd helements (elements_ne_raised _ _)
    · rcases bind_eq_error_iff.mp h with hunits | ⟨_, -, h⟩
      · obtain ⟨j, hfirst, hj⟩ := (mapM_eq_error_iff_isFirst _ _).mp hunits
        obtain ⟨hline, he⟩ := unit_eq_raised_iff.mp hj
        exact ⟨items, j, elements_eq_ok_iff.mp helements, hfirst, hline, he⟩
      · rcases bind_eq_error_iff.mp h with honly | ⟨_, -, h⟩
        · exact absurd honly (kept_ne_raised _ _)
        · rcases bind_eq_error_iff.mp h with hexclude | ⟨_, -, hreturn⟩
          · exact absurd hexclude (leftOut_ne_raised _ _)
          · cases hreturn
  · rintro ⟨items, j, hitems, hfirst, hline, he⟩
    refine bind_eq_error_iff.mpr (Or.inr ⟨items, elements_eq_ok_iff.mpr hitems, ?_⟩)
    refine bind_eq_error_iff.mpr (Or.inl ?_)
    exact (mapM_eq_error_iff_isFirst _ _).mpr ⟨j, hfirst, unit_eq_raised_iff.mpr ⟨hline, he⟩⟩

theorem isWritten_of_identifiers {j : Json} {found : List Identifier}
    (h : identifiers j = .ok found) : ∀ i ∈ found, i.IsWritten := by
  obtain ⟨items, -, hitems⟩ := exists_of_bind_eq_ok h
  have hall := Listing.mapM_eq_ok_iff.mp hitems
  clear h hitems
  induction hall with
  | nil => simp
  | cons hitem _ ih =>
    exact List.forall_mem_cons.mpr
      ⟨Identifier.isWritten_of_parse (mapError_eq_ok_iff.mp (mapError_eq_ok_iff.mp hitem)), ih⟩

/-- A selection that was read from a request keeps only identifiers that a text writes. -/
theorem isWritten_of_read {units only exclude : Json} {requests : List UnitRequest}
    {selection : Selection} (h : read units only exclude = .ok (requests, selection)) :
    ∀ i ∈ selection.only.getD [], i.IsWritten := by
  obtain ⟨_, -, h⟩ := exists_of_bind_eq_ok h
  obtain ⟨_, -, h⟩ := exists_of_bind_eq_ok h
  obtain ⟨only', honly, h⟩ := exists_of_bind_eq_ok h
  obtain ⟨_, -, h⟩ := exists_of_bind_eq_ok h
  cases h
  unfold kept at honly
  split at honly
  · cases honly
    simp
  · cases hfound : identifiers only with
    | error p =>
      rw [hfound] at honly
      cases honly
    | ok found =>
      rw [hfound] at honly
      cases honly
      exact isWritten_of_identifiers hfound

end Request

/-! ### Extracting units -/

/-- What a selection of such identifiers misses can be reported. -/
theorem Selection.not_hasLongNumber_of_apply {selection : Selection} {groups : List Group}
    {d : Defect} (hwritten : ∀ i ∈ selection.only.getD [], i.IsWritten)
    (h : selection.apply groups = .error d) : ¬d.HasLongNumber := by
  obtain ⟨-, rfl⟩ := Selection.apply_eq_error_iff.mp h
  rintro (⟨n, hn, hlong⟩ | ⟨n, hn, -⟩)
  · obtain ⟨i, hi, harity⟩ := List.mem_filterMap.mp hn
    cases hwritten i (List.mem_of_mem_filter hi) with
    | moduledoc => cases harity
    | callable hfirst hshort =>
      cases harity
      exact absurd hshort (Nat.not_lt.mpr hlong)
  · cases hn

namespace UnitRequest

variable {u : UnitRequest}

/-- The unit has a text, and these are its groups. -/
def Gives (u : UnitRequest) (groups : List Group) : Prop :=
  ∃ text, u.text = .str text ∧ extract u.identifier text u.line = .ok groups

/-- The unit raises an exception: its text is no string, or has a defect at a line with too many
digits. -/
inductive Raises (u : UnitRequest) : Raised → Prop where
  | noText (h : ∀ text, u.text ≠ .str text) : Raises u (textFault u.text)
  | longLine {text : String} {d : Defect} {n : Int} (htext : u.text = .str text)
      (hdefect : extract u.identifier text u.line = .error d) (hline : d.line = some n)
      (hdigits : 10 ^ Text.mostDigits ≤ n.natAbs) : Raises u Text.tooManyDigits

end UnitRequest

namespace Extraction

theorem refuse_eq_error_iff {α : Type} {place : Place} {result : Except Defect α}
    {x : Interruption} :
    refuse place result = .error x ↔ ∃ d, result = .error d ∧ .ofFault (d.fault place) = x := by
  rw [refuse, mapError_eq_error_iff]

theorem code_of_ofFault {d : Defect} {place : Place} {r : Refusal}
    (h : Interruption.ofFault (d.fault place) = .refused r) : r.code = .ofFault d.kind := by
  obtain ⟨f, hf, rfl⟩ := Interruption.ofFault_eq_refused_iff.mp h
  obtain ⟨-, hkind, -⟩ := Defect.fault_eq_ok_iff.mp hf
  exact congrArg RefusalCode.ofFault hkind

theorem unitGroups_of_text {place : Place} {u : UnitRequest} {text : String}
    (h : u.text = .str text) :
    unitGroups place u = refuse place (extract u.identifier text u.line) := by
  have hunit : u.toUnit = .ok ⟨u.identifier, u.line, text⟩ := by
    rw [UnitRequest.toUnit, h]
  rw [unitGroups, hunit]
  rfl

theorem unitGroups_of_no_text {place : Place} {u : UnitRequest} (h : ∀ text, u.text ≠ .str text) :
    unitGroups place u = .error (.raised (UnitRequest.textFault u.text)) := by
  have hunit : u.toUnit = .error (UnitRequest.textFault u.text) := by
    rw [UnitRequest.toUnit]
    split
    · next text htext => exact absurd htext (h text)
    · rfl
  rw [unitGroups, hunit]
  rfl

theorem unitGroups_eq_ok_iff {place : Place} {u : UnitRequest} {groups : List Group} :
    unitGroups place u = .ok groups ↔ u.Gives groups := by
  by_cases htext : ∃ text, u.text = .str text
  · obtain ⟨text, htext⟩ := htext
    rw [unitGroups_of_text htext]
    have hgives : u.Gives groups ↔ extract u.identifier text u.line = .ok groups := by
      simp [UnitRequest.Gives, htext]
    rw [hgives, refuse, mapError_eq_ok_iff]
  · rw [unitGroups_of_no_text fun text h => htext ⟨text, h⟩]
    constructor
    · intro h
      cases h
    · rintro ⟨text, h, -⟩
      exact absurd ⟨text, h⟩ htext

theorem unitGroups_eq_raised_iff {place : Place} {u : UnitRequest} {e : Raised} :
    unitGroups place u = .error (.raised e) ↔ u.Raises e := by
  by_cases htext : ∃ text, u.text = .str text
  · obtain ⟨text, htext⟩ := htext
    rw [unitGroups_of_text htext, refuse_eq_error_iff]
    constructor
    · rintro ⟨d, hdefect, hd⟩
      obtain ⟨rfl, hlong⟩ := Interruption.ofFault_eq_raised_iff.mp hd
      have hfound := (extract_eq_iff _).mp hdefect
      obtain ⟨n, hline, -⟩ := hfound.line_mem
      exact .longLine htext hdefect hline ((hfound.hasLongNumber_iff hline).mp hlong)
    · intro h
      cases h with
      | noText h => exact absurd htext (h text)
      | @longLine text' d n htext' hdefect hline hdigits =>
        obtain rfl : text = text' := Json.str.inj (htext.symm.trans htext')
        exact ⟨d, hdefect, Interruption.ofFault_eq_raised_iff.mpr ⟨rfl, Or.inr ⟨n, hline, hdigits⟩⟩⟩
  · have hno : ∀ text, u.text ≠ .str text := fun text h => htext ⟨text, h⟩
    rw [unitGroups_of_no_text hno]
    constructor
    · intro h
      cases h
      exact .noText hno
    · intro h
      cases h with
      | noText _ => rfl
      | longLine h _ _ _ => exact absurd h (hno _)

theorem exists_of_unitGroups_eq_refused {place : Place} {u : UnitRequest} {r : Refusal}
    (h : unitGroups place u = .error (.refused r)) :
    ∃ text d, u.text = .str text ∧ extract u.identifier text u.line = .error d ∧
      r.code = .ofFault d.kind := by
  by_cases htext : ∃ text, u.text = .str text
  · obtain ⟨text, htext⟩ := htext
    rw [unitGroups_of_text htext] at h
    obtain ⟨d, hdefect, hd⟩ := refuse_eq_error_iff.mp h
    exact ⟨text, d, htext, hdefect, code_of_ofFault hd⟩
  · rw [unitGroups_of_no_text fun text h => htext ⟨text, h⟩] at h
    cases h

/-! ### Requests -/

/-- An exception escapes: the first unit that cannot be read has an infinite line, or the first one
that gives no groups raises. -/
inductive Escapes (units only exclude : Json) : Raised → Prop where
  | infiniteLine {items : List Json} {j : Json} (hitems : units.elements? = some items)
      (hfirst : IsFirst Request.IsUnreadable items j) (hline : Request.HasInfiniteLine j) :
      Escapes units only exclude Request.infiniteLine
  | unit {requests : List UnitRequest} {selection : Selection} {u : UnitRequest} {e : Raised}
      (hread : Request.read units only exclude = .ok (requests, selection))
      (hfirst : IsFirst (fun u => ¬∃ groups, u.Gives groups) requests u) (hraises : u.Raises e) :
      Escapes units only exclude e

/-- The code fits the fault for which a request is refused. -/
inductive Refuses (module : Option String) (units only exclude : Json) : RefusalCode → Prop where
  | noModule (hmodule : module.getD "" = "") : Refuses module units only exclude .missingInput
  | unreadable {fault : RequestFault}
      (hread : Request.read units only exclude = .error (.invalid fault)) :
      Refuses module units only exclude .validationError
  | unit {requests : List UnitRequest} {selection : Selection} {u : UnitRequest} {text : String}
      {d : Defect} (hread : Request.read units only exclude = .ok (requests, selection))
      (hu : u ∈ requests) (htext : u.text = .str text)
      (hdefect : extract u.identifier text u.line = .error d) :
      Refuses module units only exclude (.ofFault d.kind)
  | selection {requests : List UnitRequest} {selection : Selection} {found : List (List Group)}
      {d : Defect} (hread : Request.read units only exclude = .ok (requests, selection))
      (hfound : List.Forall₂ UnitRequest.Gives requests found)
      (hdefect : selection.apply found.flatten = .error d) :
      Refuses module units only exclude (.ofFault d.kind)

theorem groupsOf_eq_error_iff {place : Place} {requests : List UnitRequest} {x : Interruption} :
    groupsOf place requests = .error x ↔
      ∃ u, IsFirst (fun u => ¬∃ groups, u.Gives groups) requests u ∧
        unitGroups place u = .error x := by
  have hfails : (fun u => ∃ x, unitGroups place u = .error x) =
      fun u => ¬∃ groups, UnitRequest.Gives u groups := by
    funext u
    rw [eq_iff_iff]
    cases hu : unitGroups place u with
    | error x =>
      have hno : ¬∃ groups, u.Gives groups := by
        rintro ⟨groups, hgroups⟩
        rw [unitGroups_eq_ok_iff.mpr hgroups] at hu
        cases hu
      simp [hno]
    | ok groups =>
      have hsome : ∃ groups, u.Gives groups := ⟨groups, unitGroups_eq_ok_iff.mp hu⟩
      simp [hsome]
  have hbind : groupsOf place requests = (requests.mapM (unitGroups place)).map List.flatten := by
    rw [groupsOf]
    cases requests.mapM (unitGroups place) <;> rfl
  rw [hbind, map_eq_error_iff, mapM_eq_error_iff_isFirst, hfails]

theorem groupsOf_eq_ok_iff {place : Place} {requests : List UnitRequest} {groups : List Group} :
    groupsOf place requests = .ok groups ↔
      ∃ found, List.Forall₂ UnitRequest.Gives requests found ∧ found.flatten = groups := by
  have hgives : ∀ found, requests.mapM (unitGroups place) = .ok found ↔
      List.Forall₂ UnitRequest.Gives requests found := by
    intro found
    simp only [Listing.mapM_eq_ok_iff, unitGroups_eq_ok_iff]
  constructor
  · intro h
    obtain ⟨found, hfound, h⟩ := exists_of_bind_eq_ok h
    exact ⟨found, (hgives found).mp hfound, Except.ok.inj h⟩
  · rintro ⟨found, hfound, rfl⟩
    rw [groupsOf, (hgives found).mpr hfound]
    rfl

section Requests

variable {module file : Option String} {units only exclude : Json}

theorem ofRequest_of_no_module (h : module.getD "" = "") :
    ofRequest module units only exclude file =
      .error (.refused { code := .missingInput, message := "'module' is required" }) := by
  have hnone : module.filter (fun m => decide (m ≠ "")) = none := by
    cases module with
    | none => rfl
    | some m =>
      obtain rfl : m = "" := h
      rfl
  unfold ofRequest
  split
  · rfl
  · next m hsome =>
    rw [hnone] at hsome
    cases hsome

theorem ofRequest_of_module (h : module.getD "" ≠ "") :
    ofRequest module units only exclude file =
      match Request.read units only exclude with
      | .ok (units, selection) => ofUnitRequests (module.getD "") file units selection
      | .error (.invalid fault) =>
        .error (.refused {
          code := .validationError, message := "Invalid doctest units: " ++ fault.message })
      | .error (.raised e) => .error (.raised e) := by
  have hsome : module.filter (fun m => decide (m ≠ "")) = some (module.getD "") := by
    cases module with
    | none => exact absurd rfl h
    | some m =>
      rw [Option.getD_some] at h ⊢
      rw [Option.filter_some, if_pos (decide_eq_true h)]
  cases hread : Request.read units only exclude with
  | ok _ => simp only [ofRequest, hsome, hread]
  | error p =>
    cases p with
    | invalid fault => simp only [ofRequest, hsome, hread]
    | raised e => simp only [ofRequest, hsome, hread]

/-- The units fail as the first one that gives no groups does, or as the selection does. -/
theorem ofUnitRequests_eq_error_iff {m : String} {requests : List UnitRequest}
    {selection : Selection} {x : Interruption} :
    ofUnitRequests m file requests selection = .error x ↔
      (∃ u, IsFirst (fun u => ¬∃ groups, u.Gives groups) requests u ∧
        unitGroups ⟨some m, file⟩ u = .error x) ∨
      ∃ found d, List.Forall₂ UnitRequest.Gives requests found ∧
        selection.apply found.flatten = .error d ∧ .ofFault (d.fault ⟨some m, file⟩) = x := by
  constructor
  · intro h
    rcases bind_eq_error_iff.mp h with hgroups | ⟨groups, hgroups, h⟩
    · exact Or.inl (groupsOf_eq_error_iff.mp hgroups)
    · obtain ⟨found, hfound, rfl⟩ := groupsOf_eq_ok_iff.mp hgroups
      rcases bind_eq_error_iff.mp h with hselection | ⟨_, -, h⟩
      · obtain ⟨d, hd, hx⟩ := refuse_eq_error_iff.mp hselection
        exact Or.inr ⟨found, d, hfound, hd, hx⟩
      · cases h
  · rintro (hfirst | ⟨found, d, hfound, hd, hx⟩)
    · exact bind_eq_error_iff.mpr (Or.inl (groupsOf_eq_error_iff.mpr hfirst))
    · refine bind_eq_error_iff.mpr (Or.inr ⟨_, groupsOf_eq_ok_iff.mpr ⟨found, hfound, rfl⟩, ?_⟩)
      exact bind_eq_error_iff.mpr (Or.inl (refuse_eq_error_iff.mpr ⟨d, hd, hx⟩))

theorem ofRequest_eq_raised_iff {e : Raised} :
    ofRequest module units only exclude file = .error (.raised e) ↔
      module.getD "" ≠ "" ∧ Escapes units only exclude e := by
  by_cases hmodule : module.getD "" = ""
  · rw [ofRequest_of_no_module hmodule]
    constructor
    · intro h
      cases h
    · rintro ⟨hgiven, -⟩
      exact absurd hmodule hgiven
  · rw [ofRequest_of_module hmodule, and_iff_right hmodule]
    constructor
    · intro h
      split at h
      · next requests selection hread =>
        rcases ofUnitRequests_eq_error_iff.mp h with ⟨u, hfirst, hu⟩ | ⟨_, d, -, hd, hx⟩
        · exact .unit hread hfirst (unitGroups_eq_raised_iff.mp hu)
        · obtain ⟨-, hlong⟩ := Interruption.ofFault_eq_raised_iff.mp hx
          have hwritten := Request.isWritten_of_read hread
          exact absurd hlong (Selection.not_hasLongNumber_of_apply hwritten hd)
      · cases h
      · next e' hread =>
        cases h
        obtain ⟨items, j, hitems, hfirst, hline, rfl⟩ := Request.read_eq_raised_iff.mp hread
        exact .infiniteLine hitems hfirst hline
    · intro h
      cases h with
      | infiniteLine hitems hfirst hline =>
        have hread : Request.read units only exclude = .error (.raised Request.infiniteLine) :=
          Request.read_eq_raised_iff.mpr ⟨_, _, hitems, hfirst, hline, rfl⟩
        simp only [hread]
      | @unit requests selection u e hread hfirst hraises =>
        simp only [hread]
        exact ofUnitRequests_eq_error_iff.mpr
          (Or.inl ⟨u, hfirst, unitGroups_eq_raised_iff.mpr hraises⟩)

theorem refuses_of_ofRequest {r : Refusal}
    (h : ofRequest module units only exclude file = .error (.refused r)) :
    Refuses module units only exclude r.code := by
  by_cases hmodule : module.getD "" = ""
  · rw [ofRequest_of_no_module hmodule] at h
    cases h
    exact .noModule hmodule
  · rw [ofRequest_of_module hmodule] at h
    split at h
    · next requests selection hread =>
      rcases ofUnitRequests_eq_error_iff.mp h with ⟨u, hfirst, hu⟩ | ⟨found, d, hfound, hd, hx⟩
      · obtain ⟨text, d, htext, hd, hcode⟩ := exists_of_unitGroups_eq_refused hu
        rw [hcode]
        exact .unit hread hfirst.mem htext hd
      · rw [code_of_ofFault hx]
        exact .selection hread hfound hd
    · next fault hread =>
      cases h
      exact .unreadable hread
    · cases h

/-- **A request for units is answered unless one of three things raises.**  It is carried out, or
refused with a code that fits its fault, exactly if nothing escapes; and what escapes is the
exception of an infinite line, of a text that is no string or of a line with too many digits. -/
theorem ofRequest_answers_iff (module file : Option String) (units only exclude : Json) :
    (((∃ x, ofRequest module units only exclude file = .ok x) ∨
        ∃ r, ofRequest module units only exclude file = .error (.refused r) ∧
          Refuses module units only exclude r.code) ↔
      ¬(module.getD "" ≠ "" ∧ ∃ e, Escapes units only exclude e)) ∧
    ∀ e, ofRequest module units only exclude file = .error (.raised e) ↔
      module.getD "" ≠ "" ∧ Escapes units only exclude e := by
  have hraised : ∀ e, ofRequest module units only exclude file = .error (.raised e) ↔
      module.getD "" ≠ "" ∧ Escapes units only exclude e := fun e => ofRequest_eq_raised_iff
  refine ⟨?_, hraised⟩
  rw [← exists_and_left, ← exists_congr hraised]
  constructor
  · rintro (⟨x, hx⟩ | ⟨r, hr, -⟩) ⟨e, he⟩
    · rw [hx] at he
      cases he
    · rw [hr] at he
      cases he
  · intro hno
    cases h : ofRequest module units only exclude file with
    | ok x => exact Or.inl ⟨x, rfl⟩
    | error i =>
      cases i with
      | refused r => exact Or.inr ⟨r, rfl, refuses_of_ofRequest h⟩
      | raised e => exact absurd ⟨e, h⟩ hno

end Requests

/-- A unit as a client sends it. -/
def unitJson (line text : Json) : Json :=
  .obj [("identifier", .str "add/2"), ("line", line), ("text", text)]

/-- Behind a unit that can be read stands one at an infinite line; only then comes one without a
text. -/
def endlessUnits : Json :=
  .arr [unitJson (.int 4) (.str "iex> add(1, 1)"), unitJson (.float "1e999") (.str ""), .obj []]

theorem ofRequest_endlessUnits :
    ofRequest (some "Sums") endlessUnits .null .null none =
      .error (.raised Request.infiniteLine) ∧
    ∃ r, ofRequest none endlessUnits .null .null none = .error (.refused r) := by
  constructor
  · refine ((ofRequest_answers_iff _ _ _ _ _).2 _).mpr ⟨by decide, ?_⟩
    have hread : ∀ j ∈ [unitJson (.int 4) (.str "iex> add(1, 1)")], ¬Request.IsUnreadable j := by
      intro j hj
      obtain rfl := List.mem_singleton.mp hj
      rintro ⟨p, hp⟩
      cases hp
    have hline : Request.HasInfiniteLine (unitJson (.float "1e999") (.str "")) :=
      ⟨_, .callable "add" 2, rfl, rfl, "1e999", false, rfl, by decide +kernel⟩
    exact .infiniteLine rfl
      ⟨_, _, rfl, hread, _, Request.unit_eq_raised_iff.mpr ⟨hline, rfl⟩⟩ hline
  · have hno : ¬((none : Option String).getD "" ≠ "" ∧
        ∃ e, Escapes endlessUnits .null .null e) := by
      rintro ⟨hmodule, -⟩
      exact hmodule rfl
    rcases (ofRequest_answers_iff none none endlessUnits .null .null).1.mpr hno with
      ⟨x, hx⟩ | ⟨r, hr, -⟩
    · cases hx
    · exact ⟨r, hr⟩

/-- A number in the place of a text. -/
theorem number_for_text_escapes :
    ofRequest (some "Sums") (.arr [unitJson (.int 1) (.int 5)]) .null .null none =
      .error (.raised (.builtin "AttributeError" "'int' object has no attribute 'replace'")) ∧
    ¬((∃ x, ofRequest (some "Sums") (.arr [unitJson (.int 1) (.int 5)]) .null .null none = .ok x) ∨
      ∃ r, ofRequest (some "Sums") (.arr [unitJson (.int 1) (.int 5)]) .null .null none =
        .error (.refused r)) := by
  have hraised : ofRequest (some "Sums") (.arr [unitJson (.int 1) (.int 5)]) .null .null none =
      .error (.raised (.builtin "AttributeError" "'int' object has no attribute 'replace'")) := rfl
  refine ⟨hraised, ?_⟩
  rw [hraised]
  rintro (⟨x, hx⟩ | ⟨r, hr⟩)
  · cases hx
  · cases hr

end Extraction

end DocExamples
