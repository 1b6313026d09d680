import DocExamples.Evaluator.Table
import DocExamples.Run
import Mathlib.Algebra.GroupWithZero.Nat
import Mathlib.Data.List.Basic

/-!
# The calls of a run

An evaluator can be made to write its calls down (`Evaluator.recorded`), and nothing else changes.
The calls of a run follow from the examples alone: every run makes the first ones of `Group.calls`,
and all of them if every example passes (`records_run`).
-/

namespace DocExamples

variable {σ ε ε' α β : Type}

/-! ### Calls that are written down -/

/-- A call of an evaluator that also goes into a list of calls. -/
def Eval.record (c : Call) (call : Eval σ Thrown α) : Eval (σ × List Call) Thrown α :=
  ExceptT.mk do
    let (s, calls) ← get
    let (result, after) := call.run.run s
    set (after, calls ++ [c])
    return result

/-- The evaluator that writes its calls down. -/
def Evaluator.recorded (ev : Evaluator σ) : Evaluator (σ × List Call) where
  heap state := ev.heap state.1
  evaluate source line := Eval.record (.evaluate source line) (ev.evaluate source line)
  render v := Eval.record .render (ev.render v)
  lastExpression source := Eval.record (.lastExpression source) (ev.lastExpression source)

/-- The computation behaves as another one and writes down the first ones of these calls, and all
of them if it succeeds. -/
def Records (calls : List Call) (recorded : Eval (σ × List Call) ε α) (plain : Eval σ ε α) : Prop :=
  ∀ s front, ∃ made, made <+: calls ∧
    (∀ a after, plain.run.run s = (.ok a, after) → made = calls) ∧
    recorded.run.run (s, front) = ((plain.run.run s).1, (plain.run.run s).2, front ++ made)

theorem run_bind_of_ok {x : Eval σ ε α} {f : α → Eval σ ε β} {s after : σ} {a : α}
    (h : x.run.run s = (.ok a, after)) : (x >>= f).run.run s = (f a).run.run after := by
  change (match x.run.run s with
    | (result, after) => (ExceptT.bindCont f result).run after) = _
  rw [h]
  rfl

theorem run_bind_of_error {x : Eval σ ε α} {f : α → Eval σ ε β} {s after : σ} {e : ε}
    (h : x.run.run s = (.error e, after)) : (x >>= f).run.run s = (.error e, after) := by
  change (match x.run.run s with
    | (result, after) => (ExceptT.bindCont f result).run after) = _
  rw [h]
  rfl

section Records

variable {calls more : List Call} {recorded : Eval (σ × List Call) ε α} {plain : Eval σ ε α}

/-- A single call is written down whatever becomes of its result. -/
theorem records_call (c : Call) (call : Eval σ Thrown α) (f : Except Thrown α → Except ε β) :
    Records [c] (ExceptT.mk do return f (← (Eval.record c call).run))
      (ExceptT.mk do return f (← call.run)) :=
  fun _ _ => ⟨[c], List.prefix_rfl, fun _ _ _ => rfl, rfl⟩

theorem Records.pure (a : α) : Records [] (pure a : Eval (σ × List Call) ε α) (pure a) := by
  intro s front
  refine ⟨[], List.prefix_rfl, fun _ _ _ => rfl, ?_⟩
  rw [List.append_nil]
  rfl

theorem Records.bind {f : α → Eval (σ × List Call) ε β} {g : α → Eval σ ε β}
    (h : Records calls recorded plain) (hrest : ∀ a, Records more (f a) (g a)) :
    Records (calls ++ more) (recorded >>= f) (plain >>= g) := by
  intro s front
  obtain ⟨made, hprefix, hall, hrun⟩ := h s front
  rcases hplain : plain.run.run s with ⟨result, after⟩
  rw [hplain] at hrun
  cases result with
  | error e =>
    -- The calls of the rest are not made.
    refine ⟨made, hprefix.trans (List.prefix_append _ _), ?_, ?_⟩
    · intro b later hok
      rw [run_bind_of_error hplain] at hok
      cases hok
    · rw [run_bind_of_error hrun, run_bind_of_error hplain]
  | ok a =>
    obtain rfl := hall a after hplain
    obtain ⟨rest, hprefixRest, hallRest, hrunRest⟩ := hrest a after (front ++ made)
    refine ⟨made ++ rest, (List.prefix_append_right_inj made).mpr hprefixRest, ?_, ?_⟩
    · intro b later hok
      rw [run_bind_of_ok hplain] at hok
      rw [hallRest b later hok]
    · rw [run_bind_of_ok hrun, run_bind_of_ok hplain, hrunRest, List.append_assoc]

theorem Records.mapError (f : ε → ε') (h : Records calls recorded plain) :
    Records calls (ExceptT.mk do return (← recorded.run).mapError f)
      (ExceptT.mk do return (← plain.run).mapError f) := by
  intro s front
  obtain ⟨made, hprefix, hall, hrun⟩ := h s front
  refine ⟨made, hprefix, ?_, ?_⟩
  · intro a after hok
    rcases hplain : plain.run.run s with ⟨result, last⟩
    change ((plain.run.run s).1.mapError f, (plain.run.run s).2) = _ at hok
    rw [hplain] at hok
    cases result with
    | error e => cases hok
    | ok b => exact hall b last hplain
  · change ((recorded.run.run (s, front)).1.mapError f, (recorded.run.run (s, front)).2) = _
    rw [hrun]
    rfl

end Records

/-! ### Checks without calls -/

theorem records_check (result : Except Problem α) :
    Records [] (Eval.check result : Eval (σ × List Call) Problem α) (Eval.check result) := by
  intro s front
  refine ⟨[], List.prefix_rfl, fun _ _ _ => rfl, ?_⟩
  rw [List.append_nil]
  rfl

theorem records_checkHeap (ev : Evaluator σ) (result : Heap → Except Problem α) :
    Records [] (Eval.checkHeap ev.recorded result) (Eval.checkHeap ev result) := by
  intro s front
  refine ⟨[], List.prefix_rfl, fun _ _ _ => rfl, ?_⟩
  rw [List.append_nil]
  rfl

/-! ### The calls of examples -/

theorem forSource_eq (source display : String) (call : Eval σ Thrown α) :
    Eval.forSource source display call =
      ExceptT.mk do return (← call.run).mapError (Problem.ofThrown source display) := by
  rw [Eval.forSource]
  congr 1
  refine bind_congr fun result => ?_
  cases result <;> rfl

theorem records_forSource (source display : String) (c : Call) (call : Eval σ Thrown α) :
    Records [c] (Eval.forSource source display (Eval.record c call))
      (Eval.forSource source display call) := by
  rw [forSource_eq, forSource_eq]
  exact records_call c call _

namespace Example

/-- The calls of an example whose first line has the given number. -/
def calls (e : Example) (line : Int) : List Call :=
  .evaluate e.sourceText line ::
    match e.expectation with
    | .exception .. => []
    | .none => []
    | .shown _ => [.lastExpression e.sourceText, .render]
    | .value source =>
      [.lastExpression e.sourceText, .evaluate source (line + e.source.length)]

theorem records_run (ev : Evaluator σ) (e : Example) (line : Int) :
    Records (e.calls line) (e.run ev.recorded line) (e.run ev line) := by
  unfold run calls
  cases e.expectation with
  | exception name message =>
    exact (records_call _ _ .ok).bind fun outcome =>
      (records_check _).bind fun _ => Records.pure _
  | none => exact records_forSource _ _ _ _
  | shown display =>
    exact (records_forSource _ _ _ _).bind fun v => (records_forSource _ _ _ _).bind fun last =>
      (records_call _ _ .ok).bind fun rendered => records_check _
  | value source =>
    exact (records_forSource _ _ _ _).bind fun v => (records_forSource _ _ _ _).bind fun last =>
      (records_forSource _ _ _ _).bind fun expected => records_checkHeap _ _

end Example

namespace Group

/-- The calls of examples in a row, of which the first one starts at the given line. -/
def callsFrom (line : Int) : List Example → List Call
  | [] => []
  | e :: rest => e.calls line ++ callsFrom (line + e.height) rest

/-- The line that a run counts for the example at this place of the group. -/
def countedLine (g : Group) (k : Nat) : Int :=
  g.startLine + ((g.examples.take k).map (·.height)).sum

/-- The calls of the group's examples, each one at its counted line. -/
def calls (g : Group) : List Call :=
  (g.examples.mapIdx fun k e => e.calls (g.countedLine k)).flatten

theorem callsFrom_eq (line : Int) (examples : List Example) :
    callsFrom line examples =
      (examples.mapIdx fun k e =>
        e.calls (line + ((examples.take k).map (·.height)).sum)).flatten := by
  induction examples generalizing line with
  | nil => rfl
  | cons e rest ih =>
    rw [callsFrom, ih, List.mapIdx_cons, List.flatten_cons]
    simp [Int.add_assoc]

theorem records_runFrom (ev : Evaluator σ) (line : Int) (examples : List Example) :
    Records (callsFrom line examples) (runFrom ev.recorded line examples)
      (runFrom ev line examples) := by
  induction examples generalizing line with
  | nil => exact Records.pure _
  | cons e rest ih =>
    refine ((e.records_run ev line).mapError _).bind fun v => ?_
    rw [← List.append_nil (callsFrom _ rest)]
    exact (ih _).bind fun vs => Records.pure _

/-- **A run makes the calls of its group.**  Every run makes the first ones of them in order, and
all of them if all examples pass. -/
theorem records_run (ev : Evaluator σ) (g : Group) :
    Records g.calls (g.run ev.recorded) (g.run ev) := by
  have hcalls : g.calls = callsFrom g.startLine g.examples := (callsFrom_eq _ _).symm
  rw [hcalls]
  exact records_runFrom ev g.startLine g.examples

end Group

end DocExamples
