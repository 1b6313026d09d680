import DocExamples.Proofs.LineLoops
import DocExamples.Proofs.MarginLines
import DocExamples.Proofs.Results
import DocExamples.Proofs.TranscriptReading

/-!
# The loops over lines

The reader of a transcript adds each example to the last group, so there must be one.  Here its
loop stops if there is none (`checkedReader`).  What the reader holds fits together behind every
pass (`IsSound.state_turn`), which rules a missing group out.  So the loop over the lines of a
transcript ends with the groups that are read from it, or with a defect of it (`line_loops_end`).
-/

namespace DocExamples.Transcript

open Text Transducer

/-! ### A last group that must be there -/

/-- What stops the reading of a transcript. -/
inductive LoopFault where
  | defect (d : Defect)
  /-- An example is to be added to the last group, and there is none. -/
  | missingGroup
deriving DecidableEq, Repr

/-- Move the expression and its output into the last group, if there is one. -/
def Reading.addExample (r : Reading) : Except LoopFault Reading :=
  if r.groups.isEmpty then .error .missingGroup else .ok r.close

/-- Look at one line, where examples need a group that they are added to. -/
def checkedTurn (r : Reading) (line : SourceLine) :
    Except LoopFault (Turn Reading SourceLine OpenGroup) :=
  if isOpening line.text then
    if !r.source.isEmpty && !r.output.isEmpty then do return .again (← r.addExample) line
    else if !r.source.isEmpty then .ok (.taken [] (r.extend line))
    else .ok (.taken [] (r.start line))
  else if isContinuation line.text && !r.source.isEmpty then .ok (.taken [] (r.extend line))
  else if Prompt.isNumbered line.text then do
    let text ← (Prompt.dropNumber line.number line.text).mapError .defect
    return .again r { line with text := text }
  else if r.source.isEmpty && r.output.isEmpty then
    .ok (.taken [] { r with isFresh := true, prompts := [] })
  else if isTerminator line.text then do
    return .taken [] { (← r.addExample) with isFresh := true }
  else .ok (.taken [] (r.answer line))

/-- The groups, closed, if they pass the check. -/
def closeGroups (identifier : Identifier) (groups : List OpenGroup) :
    Except Defect (List Group) := do
  let found := groups.map (OpenGroup.close identifier)
  found.forM checkGroup
  return found

/-- The groups behind the last line: an expression that is left is added to the last one. -/
def groupsBehind (identifier : Identifier) (r : Reading) : Except LoopFault (List Group) :=
  if r.source.isEmpty then (closeGroups identifier r.groups.reverse).mapError .defect
  else do (closeGroups identifier (← r.addExample).groups.reverse).mapError .defect

theorem Reading.addExample_eq_or (r : Reading) :
    r.addExample = .ok r.close ∨ (r.addExample = .error .missingGroup ∧ r.groups = []) := by
  unfold Reading.addExample
  split
  · next hgroups => exact Or.inr ⟨rfl, List.isEmpty_iff.mp hgroups⟩
  · exact Or.inl rfl

/-- A look at a line is as ever, unless an example is pending and there is no group for it. -/
theorem checkedTurn_eq_or (r : Reading) (line : SourceLine) :
    checkedTurn r line = (turn r line).mapError .defect ∨
      (checkedTurn r line = .error .missingGroup ∧ (r.source ≠ [] ∨ r.output ≠ []) ∧
        r.groups = []) := by
  unfold checkedTurn turn
  split
  · split
    · next hpending =>
      rcases r.addExample_eq_or with hadd | ⟨hadd, hgroups⟩
      · rw [hadd]
        exact Or.inl rfl
      · have hsource : r.source ≠ [] := by simpa using (Bool.and_eq_true_iff.mp hpending).1
        rw [hadd]
        exact Or.inr ⟨rfl, Or.inl hsource, hgroups⟩
    · split <;> exact Or.inl rfl
  split
  · exact Or.inl rfl
  split
  · cases Prompt.dropNumber line.number line.text <;> exact Or.inl rfl
  split
  · exact Or.inl rfl
  next hpending =>
  split
  · rcases r.addExample_eq_or with hadd | ⟨hadd, hgroups⟩
    · rw [hadd]
      exact Or.inl rfl
    · have hsome : r.source ≠ [] ∨ r.output ≠ [] := by
        by_contra hnone
        simp only [not_or, not_not] at hnone
        exact hpending (by simp [hnone])
      rw [hadd]
      exact Or.inr ⟨rfl, hsome, hgroups⟩
  · exact Or.inl rfl

theorem turn_of_checkedTurn {r : Reading} {line : SourceLine}
    {t : Turn Reading SourceLine OpenGroup} (h : checkedTurn r line = .ok t) :
    turn r line = .ok t := by
  rcases checkedTurn_eq_or r line with heq | ⟨heq, -⟩
  · rw [heq] at h
    exact mapError_eq_ok_iff.mp h
  · rw [heq] at h
    cases h

/-- The reader of transcripts whose examples need a group. -/
def checkedReader : Rereader LoopFault Reading SourceLine OpenGroup where
  turn := checkedTurn
  rank := rank
  rank_lt h := rank_lt_of_turn (turn_of_checkedTurn h)

/-! ### What the reader holds -/

/-- What the reader holds fits together. -/
structure Reading.IsSound (r : Reading) : Prop where
  /-- The expression is what stands behind the prompts. -/
  source_eq : r.source = r.prompts.map Prompt.fragment
  source_ne_nil : r.output ≠ [] → r.source ≠ []
  groups_ne_nil : r.source ≠ [] ∨ r.isFresh = false → r.groups ≠ []
  examples : ∀ g ∈ r.groups, ∀ e ∈ g.examples, e.source ≠ []

namespace Reading

theorem isSound_initial : IsSound {} where
  source_eq := rfl
  source_ne_nil h := (h rfl).elim
  groups_ne_nil h := h.elim (fun h => (h rfl).elim) (fun h => nomatch h)
  examples := by simp

namespace IsSound

variable {r : Reading} (h : r.IsSound) (line : SourceLine)

include h

theorem start : (r.start line).IsSound where
  source_eq := rfl
  source_ne_nil _ := List.cons_ne_nil _ _
  groups_ne_nil _ := by
    unfold Reading.start
    cases hfresh : r.isFresh with
    | true => simp
    | false => simpa using h.groups_ne_nil (Or.inr hfresh)
  examples := by
    unfold Reading.start
    cases r.isFresh with
    | true => simpa using h.examples
    | false => simpa using h.examples

theorem extend (hsource : r.source ≠ []) : (r.extend line).IsSound where
  source_eq := by simp [Reading.extend, h.source_eq]
  source_ne_nil _ := List.cons_ne_nil _ _
  groups_ne_nil _ := h.groups_ne_nil (Or.inl hsource)
  examples := h.examples

theorem answer (hsource : r.source ≠ []) : (r.answer line).IsSound :=
  { h with source_ne_nil := fun _ => hsource }

theorem close (hsource : r.source ≠ []) : r.close.IsSound where
  source_eq := rfl
  source_ne_nil hne := (hne rfl).elim
  groups_ne_nil _ := by
    have hgroups := h.groups_ne_nil (Or.inl hsource)
    simpa [Reading.close] using hgroups
  examples := by
    have hexamples := h.examples
    unfold Reading.close
    cases hgroups : r.groups with
    | nil => simp
    | cons g more =>
      rw [hgroups, List.forall_mem_cons] at hexamples
      obtain ⟨hfirst, hmore⟩ := hexamples
      rw [List.modifyHead_cons, List.forall_mem_cons]
      refine ⟨?_, hmore⟩
      rw [List.forall_mem_cons]
      exact ⟨by simpa [Reading.toExample] using hsource, hfirst⟩

/-- A line between examples, or behind the last one of a group. -/
theorem freshen : { r with isFresh := true }.IsSound :=
  { h with groups_ne_nil := fun hne => h.groups_ne_nil (hne.imp_right fun h => nomatch h) }

/-- What the reader holds fits together behind every look at a line. -/
theorem state_turn {line : SourceLine} {t : Turn Reading SourceLine OpenGroup}
    (hturn : turn r line = .ok t) : t.state.IsSound := by
  unfold turn at hturn
  split at hturn
  · split at hturn
    · next hpending =>
      cases hturn
      exact h.close (by simpa using (Bool.and_eq_true_iff.mp hpending).1)
    split at hturn
    · next hsource =>
      cases hturn
      exact h.extend line (by simpa using hsource)
    · cases hturn
      exact h.start line
  split at hturn
  · next hcontinuation =>
    cases hturn
    exact h.extend line (by simpa using (Bool.and_eq_true_iff.mp hcontinuation).2)
  split at hturn
  · obtain ⟨text, -, hturn⟩ := exists_of_bind_eq_ok hturn
    cases hturn
    exact h
  split at hturn
  · next hidle =>
    cases hturn
    have hsource : r.source = [] := by simpa using (Bool.and_eq_true_iff.mp hidle).1
    exact { h.freshen with source_eq := hsource }
  next hpending =>
  -- Output alone is never pending, so from here on there is an expression.
  have hsource : r.source ≠ [] := by
    intro hnone
    have houtput : r.output = [] := by
      by_contra hne
      exact h.source_ne_nil hne hnone
    exact hpending (by simp [hnone, houtput])
  split at hturn
  · cases hturn
    exact (h.close hsource).freshen
  · cases hturn
    exact h.answer line hsource

end IsSound

end Reading

/-! ### Loops over transcripts -/

/-- A loop in front of the first line. -/
def loopOver (lines : List SourceLine) : Loop Reading SourceLine OpenGroup :=
  { items := lines, state := {} }

/-- What is held fits together in front of every pass. -/
theorem isSound_of_leads {n : Nat} {l m : Loop Reading SourceLine OpenGroup}
    (h : checkedReader.Leads n l m) (hl : l.state.IsSound) : m.state.IsSound := by
  induction h with
  | refl => exact hl
  | tail _ hpass ih =>
    obtain ⟨line, t, -, hturn, rfl⟩ := Rereader.exists_of_pass hpass
    rw [Loop.state_behind]
    exact (ih hl).state_turn (turn_of_checkedTurn hturn)

/-- While what the reader holds fits together, no group is missing. -/
theorem pass_checkedReader {l : Loop Reading SourceLine OpenGroup} (h : l.state.IsSound) :
    checkedReader.pass l = (reader.pass l).map (·.mapError .defect) := by
  unfold Rereader.pass
  cases l.items[l.place]? with
  | none => rfl
  | some line =>
    have hturn : checkedTurn l.state line = (turn l.state line).mapError .defect := by
      rcases checkedTurn_eq_or l.state line with heq | ⟨-, hpending, hgroups⟩
      · exact heq
      · have hsource := hpending.elim id h.source_ne_nil
        exact (h.groups_ne_nil (Or.inl hsource) hgroups).elim
    change some ((checkedTurn l.state line).map l.behind) =
      some (((turn l.state line).map l.behind).mapError .defect)
    rw [hturn]
    cases turn l.state line <;> rfl

theorem ends_checkedReader {n : Nat} {l : Loop Reading SourceLine OpenGroup}
    {result : Except Defect (Loop Reading SourceLine OpenGroup)} (h : reader.Ends n l result)
    (hl : l.state.IsSound) :
    checkedReader.Ends n l (result.mapError .defect) ∧
      ∀ m, result = .ok m → m.state.IsSound := by
  induction h with
  | finished hpass =>
    refine ⟨.finished (by rw [pass_checkedReader hl, hpass]; rfl), ?_⟩
    rintro m ⟨⟩
    exact hl
  | failed hpass =>
    exact ⟨.failed (by rw [pass_checkedReader hl, hpass]; rfl), nofun⟩
  | passed hpass _ ih =>
    obtain ⟨line, t, -, hturn, rfl⟩ := Rereader.exists_of_pass hpass
    have hstate := hl.state_turn hturn
    rw [← Loop.state_behind] at hstate
    obtain ⟨hends, hsound⟩ := ih hstate
    exact ⟨.passed (by rw [pass_checkedReader hl, hpass]; rfl) hends, hsound⟩

/-! ### Groups behind a loop -/

theorem scan_eq_feed (identifier : Identifier) (lines : List SourceLine) :
    scan identifier lines =
      feed reader.settle {} lines >>= fun p => closeGroups identifier p.2.finish := by
  unfold scan Rereader.run
  rw [run_eq_feed, feed_eq]
  cases lines.mapM plainLine <;> rfl

section Groups

variable {identifier : Identifier} {r : Reading}

theorem groupsBehind_eq (h : r.IsSound) :
    groupsBehind identifier r = (closeGroups identifier r.finish).mapError .defect := by
  unfold groupsBehind Reading.finish
  split
  · rfl
  · next hsource =>
    have hne : r.source ≠ [] := by simpa using hsource
    rcases r.addExample_eq_or with hadd | ⟨-, hgroups⟩
    · rw [hadd]
      rfl
    · exact (h.groups_ne_nil (Or.inl hne) hgroups).elim

theorem source_ne_nil_of_closeGroups (h : r.IsSound) {groups : List Group}
    (hgroups : closeGroups identifier r.finish = .ok groups) :
    ∀ g ∈ groups, ∀ e ∈ g.examples, e.source ≠ [] := by
  have hlast : (if r.source.isEmpty then r else r.close).IsSound := by
    split
    · exact h
    · next hsource => exact h.close (by simpa using hsource)
  obtain ⟨_, -, hfound⟩ := exists_of_bind_eq_ok hgroups
  cases hfound
  intro g hg e he
  obtain ⟨opened, hopened, rfl⟩ := List.mem_map.mp hg
  exact hlast.examples opened (List.mem_reverse.mp hopened) e (List.mem_reverse.mp he)

end Groups

/-! ### The end of both loops -/

theorem rank_le (r : Reading) (line : SourceLine) : rank r line ≤ 2 := by
  unfold rank
  split
  · exact Nat.le_refl 2
  · split <;> omega

theorem ends_normalize (lines : List String) (start : Int) :
    ∃ n result, n ≤ 2 * lines.length ∧
      Margin.reader.Ends n { items := Margin.number start lines, state := .prose } result ∧
      result.map (·.out) = Margin.normalize lines start := by
  have hrank (s : Margin.State) (x : String × Int) : Margin.reader.rank s x ≤ 1 := by
    change Margin.rank s ≤ 1
    cases s <;> simp [Margin.rank]
  let l : Loop Margin.State (String × Int) SourceLine :=
    { items := Margin.number start lines, state := .prose }
  obtain ⟨n, result, hn, hends, hout⟩ :=
    (Rereader.endsWithin (l := l) hrank List.drop_zero).map_out
  refine ⟨n, result, by simpa [l, Margin.number] using hn, hends, ?_⟩
  rw [hout, Margin.normalize_eq_feed]
  rfl

/-- The groups behind a loop that ends are what is scanned. -/
theorem groupsBehind_of_ends (identifier : Identifier) {lines : List SourceLine}
    {result : Except Defect (Loop Reading SourceLine OpenGroup)}
    (hstate : result.map (·.state) = (feed reader.settle {} lines).map (·.2))
    (hsound : ∀ m, result = .ok m → m.state.IsSound) :
    (result.mapError .defect >>= fun m => groupsBehind identifier m.state) =
        (scan identifier lines).mapError .defect ∧
      ∀ groups, scan identifier lines = .ok groups →
        ∀ g ∈ groups, ∀ e ∈ g.examples, e.source ≠ [] := by
  rw [scan_eq_feed]
  cases hfeed : feed reader.settle {} lines with
  | error d =>
    rw [hfeed] at hstate
    cases result with
    | error d' =>
      cases hstate
      exact ⟨rfl, nofun⟩
    | ok m => cases hstate
  | ok p =>
    rw [hfeed] at hstate
    cases result with
    | error d => cases hstate
    | ok m =>
      have hp : m.state = p.2 := Except.ok.inj hstate
      have hm := hsound m rfl
      refine ⟨?_, fun groups hgroups => ?_⟩
      · change groupsBehind identifier m.state = _
        rw [groupsBehind_eq hm, hp]
        rfl
      · have hfinal : p.2.IsSound := hp ▸ hm
        exact source_ne_nil_of_closeGroups hfinal hgroups

/-- **The loops over lines end, and no group is missing.**  The loop over the lines of a document
looks at each line twice at most.  The loop over the lines of a transcript stays with a line for two
passes at most, however the line is rewritten, and takes a third one to read it.  What it holds
between two passes fits together, so an example that is added has a group to be added to, and an
expression.  Both loops end with what is normalized and what is scanned. -/
theorem line_loops_end :
    (∀ (lines : List String) (start : Int), ∃ n result, n ≤ 2 * lines.length ∧
      Margin.reader.Ends n { items := Margin.number start lines, state := .prose } result ∧
      result.map (·.out) = Margin.normalize lines start) ∧
    (∀ {n : Nat} {l m : Loop Reading SourceLine OpenGroup}, checkedReader.Leads n l m →
      m.place = l.place → n + 1 ≤ 3) ∧
    ∀ lines : List SourceLine,
      (∀ n l, checkedReader.Leads n (loopOver lines) l →
        l.state.source.length = l.state.prompts.length ∧ l.state.IsSound) ∧
      ∀ identifier, ∃ n result, n ≤ 3 * lines.length ∧
        checkedReader.Ends n (loopOver lines) result ∧
        (result >>= fun l => groupsBehind identifier l.state) =
          (scan identifier lines).mapError .defect ∧
        ∀ groups, scan identifier lines = .ok groups →
          ∀ g ∈ groups, ∀ e ∈ g.examples, e.source ≠ [] := by
  refine ⟨ends_normalize, ?_, fun lines => ⟨?_, fun identifier => ?_⟩⟩
  · intro n l m hleads hplace
    have hn : n ≤ 2 := hleads.le_of_place_eq rank_le hplace
    omega
  · intro n l hleads
    have hsound := isSound_of_leads hleads Reading.isSound_initial
    refine ⟨?_, hsound⟩
    rw [hsound.source_eq, List.length_map]
  · obtain ⟨n, result, hn, hends, hstate⟩ :=
      (Rereader.endsWithin (r := reader) (l := loopOver lines) rank_le List.drop_zero).map_state
    obtain ⟨hends, hsound⟩ := ends_checkedReader hends Reading.isSound_initial
    exact ⟨n, result.mapError .defect, hn, hends, groupsBehind_of_ends identifier hstate hsound⟩

/-- A line with a numbered prompt behind an answer is looked at three times, as three passes are the
most that one line takes. -/
theorem line_loops_end_numbered :
    let lines : List SourceLine := [⟨"iex> 1", 1⟩, ⟨"1", 2⟩, ⟨"iex(2)> 2", 3⟩]
    let l : Loop Reading SourceLine OpenGroup :=
      { items := lines, place := 2,
        state := { source := ["1"], output := ["1"], prompts := ["iex> 1"], isFresh := false,
                   groups := [⟨1, []⟩] } }
    ∃ m, checkedReader.Leads 2 (loopOver lines) l ∧ checkedReader.Leads 2 l m ∧
      m.place = l.place ∧ 2 + 1 ≤ 3 := by
  intro lines l
  obtain ⟨-, hpasses, -⟩ := line_loops_end
  have hfront : checkedReader.Leads 2 (loopOver lines) l :=
    .tail (.tail (.refl _) rfl) rfl
  let m : Loop Reading SourceLine OpenGroup :=
    { items := [⟨"iex> 1", 1⟩, ⟨"1", 2⟩, ⟨"iex> 2", 3⟩], place := 2,
      state := { isFresh := false, groups := [⟨1, [⟨["1"], "1", "\niex> 1\n1"⟩]⟩] } }
  have hlast : checkedReader.Leads 2 l m := .tail (.tail (.refl _) rfl) rfl
  exact ⟨m, hfront, hlast, rfl, hpasses hlast rfl⟩

end DocExamples.Transcript
