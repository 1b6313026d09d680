import DocExamples.Proofs.RunCalls
import DocExamples.Script.Session
import Mathlib.Data.List.Induction

/-!
# Blocks of statements

A statement binds no names but its targets (`bindsOnly_run`).  So statements that do not bind the
name of the built-in names leave them as they are, and whether further statements belong to the same
block makes no difference to them (`runFrame_append`).  What stands last in a source is run in a way
of its own, which finds a value but has the same effects.  So a source in front of something else
does what its statements do (`runFrame_ending_bind`), once all that it binds was checked and its
documentation was bound (`runPlaced_one`).
-/

namespace DocExamples.Script

/-! ### Names that are bound -/

theorem get?_bind_self (name : String) (v : Value) (names : Names) :
    (bind name v names).get? name = some v := by
  have hfind : (bind name v names).find? (·.1 = name) = some (name, v) := by
    induction names with
    | nil => simp [bind]
    | cons entry rest ih =>
      obtain ⟨n, w⟩ := entry
      by_cases hn : n = name
      · simp [bind, hn]
      · simp [bind, hn, ih]
  rw [Names.get?, hfind, Option.map_some]

theorem get?_bind_of_ne {name other : String} (h : other ≠ name) (v : Value) (names : Names) :
    (bind other v names).get? name = names.get? name := by
  have hfind : (bind other v names).find? (·.1 = name) = names.find? (·.1 = name) := by
    induction names with
    | nil => simp [bind, h]
    | cons entry rest ih =>
      obtain ⟨n, w⟩ := entry
      by_cases hn : n = other
      · simp [bind, hn, h]
      · simp [bind, hn, List.find?_cons, ih]
  rw [Names.get?, hfind, Names.get?]

theorem get?_bindAll_of_not_mem {name : String} {targets : List String} (h : name ∉ targets)
    (v : Value) (names : Names) : (names.bindAll targets v).get? name = names.get? name := by
  induction targets generalizing names with
  | nil => rfl
  | cons target rest ih =>
    rw [List.mem_cons, not_or] at h
    obtain ⟨hne, hrest⟩ := h
    exact (ih hrest _).trans (get?_bind_of_ne (Ne.symm hne) v names)

/-! ### What a computation binds -/

/-- The computation binds no names but these. -/
def BindsOnly {α : Type} (targets : List String) (m : Eval Store Thrown α) : Prop :=
  ∀ s name, name ∉ targets → (m.run.run s).2.names.get? name = s.names.get? name

section BindsOnly

variable {α β : Type} {targets : List String} {m : Eval Store Thrown α}

theorem bindsOnly_pure (a : α) : BindsOnly targets (pure a) := fun _ _ _ => rfl

theorem bindsOnly_throw (t : Thrown) : BindsOnly targets (throw t : Eval Store Thrown α) :=
  fun _ _ _ => rfl

theorem bindsOnly_get : BindsOnly targets get := fun _ _ _ => rfl

theorem bindsOnly_lift (work : Work α) : BindsOnly targets (lift work) := fun _ _ _ => rfl

theorem bindsOnly_bindNames (targets : List String) (v : Value) :
    BindsOnly targets (bindNames targets v) :=
  fun s _ h => get?_bindAll_of_not_mem h v s.names

theorem BindsOnly.bind {f : α → Eval Store Thrown β} (hm : BindsOnly targets m)
    (hf : ∀ a, BindsOnly targets (f a)) : BindsOnly targets (m >>= f) := by
  intro s name h
  rcases hrun : m.run.run s with ⟨result, after⟩
  have hafter := hm s name h
  rw [hrun] at hafter
  cases result with
  | error t =>
    rw [run_bind_of_error hrun]
    exact hafter
  | ok a =>
    rw [run_bind_of_ok hrun]
    exact (hf a after name h).trans hafter

theorem BindsOnly.mono {more : List String} (hm : BindsOnly targets m) (h : targets ⊆ more) :
    BindsOnly more m :=
  fun s name hname => hm s name fun hmem => hname (h hmem)

variable (b : Builtins)

theorem bindsOnly_evaluated (e : Expr) : BindsOnly targets (evaluated b e) :=
  bindsOnly_get.bind fun _ => bindsOnly_lift _

theorem bindsOnly_raising (e : Option Expr) : BindsOnly targets (raising b e) := by
  cases e with
  | none => exact bindsOnly_throw _
  | some e => exact bindsOnly_get.bind fun _ => (bindsOnly_lift _).bind fun _ => bindsOnly_throw _

theorem bindsOnly_replaceItems (target : String) (number : Nat) (items : List Value) :
    BindsOnly [target] (replaceItems target number items) := by
  have hheap : BindsOnly [target] (modify fun s : Store =>
      { s with heap := s.heap.write number (.list items) } : Eval Store Thrown PUnit) :=
    fun _ _ _ => rfl
  exact hheap.bind fun _ => bindsOnly_bindNames _ _

theorem bindsOnly_change (target : String) (op : BinaryOp) (v w : Value) :
    BindsOnly [target] (change target op v w) := by
  refine bindsOnly_get.bind fun s => ?_
  split
  · exact (bindsOnly_lift _).bind fun _ => bindsOnly_replaceItems _ _ _
  · exact (bindsOnly_lift _).bind fun _ => bindsOnly_replaceItems _ _ _
  · exact (bindsOnly_lift _).bind fun _ => bindsOnly_bindNames _ _

/-- A statement binds no names but its targets. -/
theorem bindsOnly_run (s : Stmt) : BindsOnly s.targets (s.run b) := by
  cases s with
  | expr e => exact (bindsOnly_evaluated b e).bind fun _ => bindsOnly_pure _
  | assign targets e => exact (bindsOnly_evaluated b e).bind fun _ => bindsOnly_bindNames _ _
  | update target op e =>
    exact (bindsOnly_evaluated b _).bind fun _ =>
      (bindsOnly_evaluated b e).bind fun _ => bindsOnly_change _ _ _ _
  | pass => exact bindsOnly_pure _
  | raise e => exact bindsOnly_raising b e
  | forever => exact bindsOnly_throw _
  | importSystem => exact (bindsOnly_lift _).bind fun _ => bindsOnly_bindNames _ _
  | exit code => exact (bindsOnly_evaluated b _).bind fun _ => bindsOnly_throw _

theorem bindsOnly_runAll (statements : List Stmt) :
    BindsOnly (statements.flatMap Stmt.targets) (runAll b statements) := by
  induction statements with
  | nil => exact bindsOnly_pure _
  | cons s rest ih =>
    rw [List.flatMap_cons]
    exact ((bindsOnly_run b s).mono (List.subset_append_left _ _)).bind fun _ =>
      ih.mono (List.subset_append_right _ _)

end BindsOnly

/-! ### Blocks that are continued -/

theorem runAll_append (b : Builtins) (xs ys : List Stmt) :
    runAll b (xs ++ ys) = (do runAll b xs; runAll b ys) := by
  induction xs with
  | nil => simp [runAll]
  | cons x rest ih => simp [runAll, ih]

/-- The names that statements bind. -/
def boundNames (statements : List Stmt) : List String := statements.flatMap Stmt.targets

theorem run_runFrame (xs : List Stmt) (s : Store) :
    (runFrame xs).run.run s = (runAll s.names.builtins xs).run.run s := by
  have hget : (get : Eval Store Thrown Store).run.run s = (.ok s, s) := rfl
  exact run_bind_of_ok hget

/-- Behind statements that leave the built-in names as they are, further ones may start anew. -/
theorem runFrame_append {xs : List Stmt} (h : builtinsName ∉ boundNames xs) (ys : List Stmt) :
    runFrame (xs ++ ys) = (do runFrame xs; runFrame ys) := by
  refine ExceptT.ext (StateT.ext fun s => ?_)
  have hframe := run_runFrame xs s
  have hkept := bindsOnly_runAll s.names.builtins xs s builtinsName h
  refine (run_runFrame (xs ++ ys) s).trans ?_
  rw [runAll_append]
  rcases hrun : (runAll s.names.builtins xs).run.run s with ⟨result, after⟩
  rw [hrun] at hframe hkept
  cases result with
  | error t => rw [run_bind_of_error hrun, run_bind_of_error hframe]
  | ok a =>
    have hbuiltins : after.names.builtins = s.names.builtins := by
      rw [Names.builtins, hkept, Names.builtins]
    rw [run_bind_of_ok hrun, run_bind_of_ok hframe, run_runFrame, hbuiltins]

/-! ### The last statement of a source -/

/-- A statement does the same whether it gives a value or not. -/
theorem value_bind_const (b : Builtins) (s : Stmt) {α : Type} (next : Eval Store Thrown α) :
    (s.value b >>= fun _ => next) = (s.run b >>= fun _ => next) := by
  cases s <;> simp [Stmt.value, Stmt.run]

/-- A name that was bound can be looked up, which changes nothing. -/
theorem bindNames_result_bind (target : String) (e : Expr) (v : Value) {α : Type}
    (next : Eval Store Thrown α) :
    (bindNames [target] v >>= fun _ => (Stmt.assign [target] e).result >>= fun _ => next) =
      (bindNames [target] v >>= fun _ => next) := by
  refine ExceptT.ext (StateT.ext fun s => ?_)
  let after : Store := { s with names := bind target v s.names }
  have hbind : (bindNames [target] v).run.run s = (.ok (), after) := rfl
  have hitem : after.names.item target = .ok v := by rw [Names.item, get?_bind_self]
  have hresult : (Stmt.assign [target] e).result.run.run after = (.ok v, after) := by
    change ((after.names.item target).mapError Thrown.raised, after) = _
    rw [hitem]
    rfl
  rw [run_bind_of_ok hbind, run_bind_of_ok hbind, run_bind_of_ok hresult]

/-- What a statement leaves as a value is there, and looking at it changes nothing. -/
theorem run_result_bind (b : Builtins) (s : Stmt) {α : Type} (next : Eval Store Thrown α) :
    (s.run b >>= fun _ => s.result >>= fun _ => next) = (s.run b >>= fun _ => next) := by
  cases s with
  | assign targets e =>
    match targets with
    | [] => simp [Stmt.result]
    | [target] => simp only [Stmt.run, bind_assoc, bindNames_result_bind]
    | target :: other :: more => simp [Stmt.result]
  | expr e => simp [Stmt.result]
  | update target op e => simp [Stmt.result]
  | pass => simp [Stmt.result]
  | raise e => simp [Stmt.result]
  | forever => simp [Stmt.result]
  | importSystem => simp [Stmt.result]
  | exit code => simp [Stmt.result]

/-- The last statement is an expression. -/
def endsInExpression (statements : List Stmt) : Bool := statements.getLast?.any Stmt.isExpression

/-- The statements of a source that run as one block: all of them, but not a last expression. -/
def block (statements : List Stmt) : List Stmt :=
  if endsInExpression statements then statements.dropLast else statements

/-- What gives a source its value behind that block. -/
def ending (statements : List Stmt) : Eval Store Thrown Value :=
  match statements.getLast? with
  | none => return .none
  | some last => if last.isExpression then do last.value (← get).names.builtins else last.result

theorem endsInExpression_append (xs : List Stmt) {ys : List Stmt} (h : ys ≠ []) :
    endsInExpression (xs ++ ys) = endsInExpression ys := by
  rw [endsInExpression, List.getLast?_append_of_ne_nil xs h, endsInExpression]

theorem block_append (xs : List Stmt) {ys : List Stmt} (h : ys ≠ []) :
    block (xs ++ ys) = xs ++ block ys := by
  rw [block, endsInExpression_append xs h, block, List.dropLast_append_of_ne_nil h]
  split <;> rfl

theorem ending_append (xs : List Stmt) {ys : List Stmt} (h : ys ≠ []) :
    ending (xs ++ ys) = ending ys := by
  rw [ending, List.getLast?_append_of_ne_nil xs h, ending]

theorem runFrame_nil : runFrame [] = pure () := rfl

theorem runFrame_singleton (s : Stmt) :
    runFrame [s] = (do s.run (← get).names.builtins) := by
  simp [runFrame, runAll]

/-- In front of something else a source does what its statements do in a row.  A last expression
finds the same built-in names, if they are not bound anew in front of it. -/
theorem runFrame_ending_bind {xs : List Stmt}
    (h : builtinsName ∉ boundNames xs ∨ endsInExpression xs = false) {α : Type}
    (next : Eval Store Thrown α) :
    (do runFrame (block xs); let _ ← ending xs; next) = (do runFrame xs; next) := by
  cases xs using List.reverseRecOn with
  | nil => rfl
  | append_singleton front last =>
    have hlast : [last] ≠ [] := List.cons_ne_nil _ _
    rw [block_append front hlast, ending_append front hlast]
    cases hexpr : last.isExpression with
    | true =>
      have hfront : builtinsName ∉ boundNames front := by
        rcases h with h | h
        · rw [boundNames, List.flatMap_append, List.mem_append, not_or] at h
          exact h.1
        · rw [endsInExpression_append front hlast] at h
          simp [endsInExpression, hexpr] at h
      simp [block, ending, endsInExpression, hexpr, runFrame_append hfront, runFrame_singleton,
        value_bind_const]
    | false =>
      simp [block, ending, endsInExpression, hexpr, runFrame, runAll_append, runAll,
        run_result_bind]

/-! ### Documentation -/

/-- The text that becomes the documentation of a source: it stands in front of other statements. -/
def documented : List Stmt → Option String
  | .expr (.str text) :: _ :: _ => some text
  | _ => none

theorem leadingText?_block (statements : List Stmt) :
    leadingText? (block statements) = documented statements := by
  match statements with
  | [] => rfl
  | [s] =>
    cases s with
    | expr e => cases e <;> rfl
    | _ => rfl
  | s :: t :: rest =>
    rw [← List.singleton_append, block_append [s] (List.cons_ne_nil t rest)]
    cases s with
    | expr e => cases e <;> rfl
    | _ => rfl

/-! ### Sources -/

theorem settled_ok {α : Type} (a : α) : settled (.ok a) = pure a := rfl

theorem settled_error_bind {α β : Type} (e : Raised) (f : α → Eval Store Thrown β) :
    (settled (.error e) >>= f) = throw (.raised e) := rfl

/-- On the first line there are no lines to check. -/
theorem settled_checkLines_one (extents : List Extent) : settled (checkLines 1 extents) = pure () :=
  rfl

theorem exec_one (place : Place) (p : List PlacedStmt) :
    exec place 1 p = (do
      settled (checkTargets place 1 p)
      document (leadingText? (p.map (·.stmt)))
      runFrame (p.map (·.stmt))) := by
  cases p with
  | nil => rfl
  | cons s rest => simp [exec, settled_checkLines_one]

/-- An expression binds nothing, so it need not be checked. -/
theorem checkTargets_append_expression (place : Place) (line : Int) (front : List PlacedStmt)
    {last : PlacedStmt} (h : last.stmt.isExpression = true) :
    checkTargets place line (front ++ [last]) = checkTargets place line front := by
  have hrefusal : last.refusal? = none := by
    unfold PlacedStmt.refusal?
    cases hstmt : last.stmt with
    | expr e => rfl
    | exit code => rfl
    | _ => simp [hstmt, Stmt.isExpression] at h
  unfold checkTargets
  rw [List.findSome?_append, List.findSome?_singleton, hrefusal, Option.or_none]

/-- A source from the first line on: its block is checked as a whole, documented and run, and then
its last statement gives the value. -/
theorem runPlaced_one (place : Place) (p : List PlacedStmt) :
    runPlaced place 1 p = (do
      settled (checkTargets place 1 p)
      document (documented (p.map (·.stmt)))
      runFrame (block (p.map (·.stmt)))
      ending (p.map (·.stmt))) := by
  cases p using List.reverseRecOn with
  | nil => rfl
  | append_singleton front last =>
    rw [← leadingText?_block]
    cases hexpr : last.stmt.isExpression with
    | true =>
      have hchecked := checkTargets_append_expression place 1 front hexpr
      simp [runPlaced, exec_one, settled_checkLines_one, hchecked, block, ending, endsInExpression,
        hexpr]
    | false =>
      simp [runPlaced, exec_one, block, ending, endsInExpression, hexpr]

end DocExamples.Script
