import DocExamples.Proofs.JoinedTokens
import DocExamples.Script.Session

/-!
# The statements of joined sources

Two sources that parse are joined by a line feed.  The statements of the joined source are those of
the first one, and behind them those of the second one at other places (`parseSource_joined`).
-/

namespace DocExamples.Script

open Text

/-! ### Statements of lines at other places -/

theorem map_cutStatements {xs ys : List Placed} (h : ys.map (·.token) = xs.map (·.token)) :
    (cutStatements ys).1.map (·.map (·.token)) = (cutStatements xs).1.map (·.map (·.token)) ∧
      (cutStatements ys).2.map (·.token) = (cutStatements xs).2.map (·.token) := by
  induction xs generalizing ys with
  | nil =>
    rw [List.map_nil, List.map_eq_nil_iff] at h
    rw [h]
    exact ⟨rfl, rfl⟩
  | cons x rest ih =>
    obtain ⟨y, more, rfl, hy, hmore⟩ := List.map_eq_cons_iff.mp h
    obtain ⟨hpieces, hlast⟩ := ih hmore
    simp only [cutStatements, hy]
    split
    · exact ⟨by simp [hpieces], hlast⟩
    · cases hcut : (cutStatements rest).1 with
      | nil =>
        rw [hcut, List.map_nil, List.map_eq_nil_iff] at hpieces
        simp [hpieces, hy, hlast]
      | cons tokens pieces =>
        rw [hcut, List.map_cons] at hpieces
        obtain ⟨tokens', pieces', hcut', htokens, hrest⟩ := List.map_eq_cons_iff.mp hpieces
        simp [hcut', hy, htokens, hrest, hlast]

theorem map_mapM {α β γ : Type} (f : α → Option β) (g : β → γ) (xs : List α) :
    (xs.mapM f).map (·.map g) = xs.mapM fun x => (f x).map g := by
  induction xs with
  | nil => rfl
  | cons x rest ih =>
    rw [List.mapM_cons, List.mapM_cons, ← ih]
    cases f x with
    | none => rfl
    | some b => cases rest.mapM f <;> rfl

theorem map_stmt_readPlaced (tokens : List Placed) :
    (readPlaced tokens).map (·.stmt) = readStatement (tokens.map (·.token)) := by
  unfold readPlaced
  cases readStatement (tokens.map (·.token)) <;> rfl

theorem map_stmt_mapM (pieces : List (List Placed)) :
    (pieces.mapM readPlaced).map (·.map (·.stmt)) =
      (pieces.map (·.map (·.token))).mapM readStatement := by
  rw [map_mapM, List.mapM_map]
  simp only [map_stmt_readPlaced, Function.comp_def]

/-- The statements that a logical line writes. -/
def LogicalLine.statements? (l : LogicalLine) : Option (List Stmt) :=
  (readLine l).map (·.map (·.stmt))

theorem statements?_congr {l l' : LogicalLine} (h : l'.unplaced = l.unplaced) :
    l'.statements? = l.statements? := by
  obtain ⟨hdepth, htokens⟩ := Prod.mk.inj h
  obtain ⟨hpieces, hlast⟩ := map_cutStatements htokens
  have hempty : (cutStatements l'.tokens).2.isEmpty = (cutStatements l.tokens).2.isEmpty := by
    rw [← List.isEmpty_map (f := (·.token)), hlast, List.isEmpty_map]
  unfold LogicalLine.statements? readLine
  rw [hdepth]
  split
  · rfl
  · simp only [map_stmt_mapM, hempty]
    split
    · rw [hpieces]
    · rw [List.map_append, List.map_append, hpieces, List.map_singleton, List.map_singleton, hlast]

theorem mapM_statements?_congr {lines lines' : List LogicalLine}
    (h : lines'.map (·.unplaced) = lines.map (·.unplaced)) :
    lines'.mapM LogicalLine.statements? = lines.mapM LogicalLine.statements? := by
  induction lines generalizing lines' with
  | nil =>
    rw [List.map_nil, List.map_eq_nil_iff] at h
    rw [h]
  | cons l rest ih =>
    obtain ⟨l', rest', rfl, hl, hrest⟩ := List.map_eq_cons_iff.mp h
    rw [List.mapM_cons, List.mapM_cons, statements?_congr hl, ih hrest]

theorem map_stmt_readLines (lines : List LogicalLine) :
    (readLines lines).map (·.map (·.stmt)) =
      (lines.mapM LogicalLine.statements?).map List.flatten := by
  have hlines : lines.mapM LogicalLine.statements? =
      (lines.mapM readLine).map (·.map (·.map (·.stmt))) := (map_mapM readLine _ lines).symm
  rw [hlines, readLines]
  cases lines.mapM readLine with
  | none => rfl
  | some p => exact congrArg some List.map_flatten

/-! ### Joined sources -/

theorem parse_eq_ok_iff {source : String} {p : List PlacedStmt} :
    parse source = .ok p ↔
      (tokenize source).fault = none ∧ readLines (tokenize source).lines.reverse = some p := by
  unfold parse
  simp only
  cases hfault : (tokenize source).fault with
  | some f => simp
  | none => cases readLines (tokenize source).lines.reverse <;> simp

theorem readLines_append (front lines : List LogicalLine) :
    readLines (front ++ lines) = do return (← readLines front) ++ (← readLines lines) := by
  simp only [readLines, List.mapM_append]
  cases front.mapM readLine with
  | none => rfl
  | some p => cases lines.mapM readLine <;> simp

/-- Lines at other places have the same statements at other places. -/
theorem exists_readLines_of_unplaced {lines lines' : List LogicalLine} {q : List PlacedStmt}
    (h : lines'.map (·.unplaced) = lines.map (·.unplaced)) (hq : readLines lines = some q) :
    ∃ q', readLines lines' = some q' ∧ q'.map (·.stmt) = q.map (·.stmt) := by
  have hstmts : (readLines lines').map (·.map (·.stmt)) = some (q.map (·.stmt)) := by
    rw [map_stmt_readLines, mapM_statements?_congr h, ← map_stmt_readLines, hq, Option.map_some]
  exact Option.map_eq_some_iff.mp hstmts

theorem parse_joined {s t : String} {p q : List PlacedStmt} (hs : parse s = .ok p)
    (ht : parse t = .ok q) (hne : t ≠ "") :
    ∃ q', parse (s ++ "\n" ++ t) = .ok (p ++ q') ∧ q'.map (·.stmt) = q.map (·.stmt) := by
  obtain ⟨hsfault, hslines⟩ := parse_eq_ok_iff.mp hs
  obtain ⟨htfault, htlines⟩ := parse_eq_ok_iff.mp ht
  obtain ⟨hfault, more, hlines, hmore⟩ := tokenize_joined hsfault hne
  have hreverse : more.reverse.map (·.unplaced) =
      (tokenize t).lines.reverse.map (·.unplaced) := by
    rw [List.map_reverse, List.map_reverse, hmore]
  obtain ⟨q', hq', hstmts⟩ := exists_readLines_of_unplaced hreverse htlines
  refine ⟨q', parse_eq_ok_iff.mpr ⟨hfault.mpr htfault, ?_⟩, hstmts⟩
  rw [hlines, List.reverse_append, readLines_append, hslines, hq']
  rfl

theorem parseSource_eq_ok_iff {source : String} {p : List PlacedStmt} :
    parseSource source = .ok (.ok p) ↔ '\x00' ∉ source.toList ∧ parse source = .ok p := by
  unfold parseSource
  split
  · next hnul => simp [List.contains_iff_mem.mp hnul]
  · next hnul =>
    have hmem : '\x00' ∉ source.toList := fun h => hnul (List.contains_iff_mem.mpr h)
    simp [hmem]

/-- **The statements of joined sources.**  Two sources that parse, the second one with a statement
in it, are joined to a source that parses.  It has the statements of the first one, at the same
places, and behind them those of the second one. -/
theorem parseSource_joined {s t : String} {p q : List PlacedStmt}
    (hs : parseSource s = .ok (.ok p)) (ht : parseSource t = .ok (.ok q)) (hne : q ≠ []) :
    ∃ q', parseSource (s ++ "\n" ++ t) = .ok (.ok (p ++ q')) ∧
      q'.map (·.stmt) = q.map (·.stmt) := by
  obtain ⟨hsnul, hs⟩ := parseSource_eq_ok_iff.mp hs
  obtain ⟨htnul, ht⟩ := parseSource_eq_ok_iff.mp ht
  have htext : t ≠ "" := by
    rintro rfl
    have hempty : parse "" = .ok [] := rfl
    rw [hempty] at ht
    exact hne (Except.ok.inj ht).symm
  obtain ⟨q', hjoined, hstmts⟩ := parse_joined hs ht htext
  refine ⟨q', parseSource_eq_ok_iff.mpr ⟨?_, hjoined⟩, hstmts⟩
  simp [hsnul, htnul]

end DocExamples.Script
