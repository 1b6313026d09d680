import DocExamples.Proofs.Promises
import Mathlib.Data.List.Induction

/-!
# The order of a run

The relation `Example.Asks` states which calls an example makes in a state, in terms of how these
calls end.  A group lets its examples make their calls one after the other, each one in the state
that the one in front left, and ends with the first problem.  The main statement is
`run_in_order`.
-/

namespace DocExamples

variable {σ α : Type}

/-! ### Recorded calls -/

/-- A call is written down whatever it ends with. -/
theorem run_record {c : Call} {call : Eval σ Thrown α} {result : Except Thrown α} {s after : σ}
    {front : List Call} (h : call.run.run s = (result, after)) :
    (Eval.record c call).run.run (s, front) = (result, after, front ++ [c]) := by
  change ((call.run.run s).1, (call.run.run s).2, front ++ [c]) = _
  rw [h]

namespace Example

/-! ### The calls of an example -/

/-- The result of the example is compared with what is promised. -/
def IsCompared (e : Example) : Prop :=
  (∃ display, e.expectation = .shown display) ∨ ∃ source, e.expectation = .value source

/-- The calls of an example in a state.  The source comes first.  What follows needs a value of the
source and a promise to compare it with, and ends with the first call that fails. -/
inductive Asks (ev : Evaluator σ) (e : Example) (line : Int) (s : σ) : List Call → Prop where
  | failed {t : Thrown} {after : σ}
      (hsource : (ev.evaluate e.sourceText line).run.run s = (.error t, after)) :
      Asks ev e line s [.evaluate e.sourceText line]
  | notCompared (hcompared : ¬e.IsCompared) : Asks ev e line s [.evaluate e.sourceText line]
  | lastFailed {v : Value} {mid after : σ} {t : Thrown} (hcompared : e.IsCompared)
      (hsource : (ev.evaluate e.sourceText line).run.run s = (.ok v, mid))
      (hlast : (ev.lastExpression e.sourceText).run.run mid = (.error t, after)) :
      Asks ev e line s [.evaluate e.sourceText line, .lastExpression e.sourceText]
  | shown {display last : String} {v : Value} {mid behind : σ}
      (hshown : e.expectation = .shown display)
      (hsource : (ev.evaluate e.sourceText line).run.run s = (.ok v, mid))
      (hlast : (ev.lastExpression e.sourceText).run.run mid = (.ok last, behind)) :
      Asks ev e line s [.evaluate e.sourceText line, .lastExpression e.sourceText, .render]
  | value {source last : String} {v : Value} {mid behind : σ}
      (hvalue : e.expectation = .value source)
      (hsource : (ev.evaluate e.sourceText line).run.run s = (.ok v, mid))
      (hlast : (ev.lastExpression e.sourceText).run.run mid = (.ok last, behind)) :
      Asks ev e line s [.evaluate e.sourceText line, .lastExpression e.sourceText,
        .evaluate source (line + e.source.length)]

/-- The calls that an example makes when it starts in a state. -/
def asked (ev : Evaluator σ) (e : Example) (line : Int) (s : σ) : List Call :=
  ((e.run ev.recorded line).run.run (s, [])).2.2

section Runs

variable {ev : Evaluator σ} {e : Example} {line : Int} {s : σ}

/-- An example whose result is compared goes on with the value of its source. -/
theorem IsCompared.exists_rest (h : e.IsCompared) (ev : Evaluator σ) (line : Int) :
    ∃ rest : Value → String → Eval σ Problem Value, e.run ev line =
      Eval.forSource e.sourceText e.display (ev.evaluate e.sourceText line) >>= fun v =>
      Eval.forSource e.sourceText e.display (ev.lastExpression e.sourceText) >>= rest v := by
  rcases h with ⟨display, hshown⟩ | ⟨source, hvalue⟩
  · rw [run, hshown]
    exact ⟨_, rfl⟩
  · rw [run, hvalue]
    exact ⟨_, rfl⟩

/-- Behind the last expression there is one more call, and then a check without calls. -/
theorem exists_asks_behind {v : Value} {last : String} {mid behind : σ} (h : e.IsCompared)
    (hsource : (ev.evaluate e.sourceText line).run.run s = (.ok v, mid))
    (hlast : (ev.lastExpression e.sourceText).run.run mid = (.ok last, behind)) :
    ∃ made, e.Asks ev line s made ∧ ∀ front,
      ((e.run ev.recorded line).run.run (s, front)).2.2 = front ++ made := by
  have hfirst : ∀ front, (ev.recorded.evaluate e.sourceText line).run.run (s, front) =
      (.ok v, mid, front ++ [.evaluate e.sourceText line]) :=
    fun front => run_record hsource
  have hsecond : ∀ front, (ev.recorded.lastExpression e.sourceText).run.run (mid, front) =
      (.ok last, behind, front ++ [.lastExpression e.sourceText]) :=
    fun front => run_record hlast
  rcases h with ⟨display, hshown⟩ | ⟨source, hvalue⟩
  · refine ⟨_, .shown hshown hsource hlast, fun front => ?_⟩
    rcases hrender : (ev.render v).run.run behind with ⟨rendered, after⟩
    have hthird : ∀ front, (ev.recorded.render v).run.run (behind, front) =
        (rendered, after, front ++ [.render]) := fun front => run_record hrender
    rw [run_of_shown hshown (hfirst front) (hsecond _), hthird]
    simp
  · refine ⟨_, .value hvalue hsource hlast, fun front => ?_⟩
    rcases hexpected : (ev.evaluate source (line + e.source.length)).run.run behind with
      ⟨result, after⟩
    have hthird : ∀ front,
        (ev.recorded.evaluate source (line + e.source.length)).run.run (behind, front) =
          (result, after, front ++ [.evaluate source (line + e.source.length)]) :=
      fun front => run_record hexpected
    cases result with
    | error t =>
      rw [run_of_value_error hvalue (hfirst front) (hsecond _) (hthird _)]
      simp
    | ok w =>
      rw [run_of_value hvalue (hfirst front) (hsecond _) (hthird _)]
      simp

theorem exists_asks (ev : Evaluator σ) (e : Example) (line : Int) (s : σ) :
    ∃ made, e.Asks ev line s made ∧ ∀ front,
      ((e.run ev.recorded line).run.run (s, front)).2.2 = front ++ made := by
  rcases hsource : (ev.evaluate e.sourceText line).run.run s with ⟨result, mid⟩
  have hrecorded : ∀ front, (ev.recorded.evaluate e.sourceText line).run.run (s, front) =
      (result, mid, front ++ [.evaluate e.sourceText line]) :=
    fun front => run_record hsource
  by_cases hcompared : e.IsCompared
  · obtain ⟨rest, hrun⟩ := hcompared.exists_rest ev.recorded line
    cases result with
    | error t =>
      refine ⟨_, .failed hsource, fun front => ?_⟩
      rw [hrun, run_bind_of_error (run_forSource_of_error (hrecorded front))]
    | ok v =>
      rcases hlast : (ev.lastExpression e.sourceText).run.run mid with ⟨answer, behind⟩
      cases answer with
      | error t =>
        have hfails : ∀ front, (ev.recorded.lastExpression e.sourceText).run.run (mid, front) =
            (.error t, behind, front ++ [.lastExpression e.sourceText]) :=
          fun front => run_record hlast
        refine ⟨_, .lastFailed hcompared hsource hlast, fun front => ?_⟩
        rw [hrun, run_bind_of_ok (run_forSource_eq_ok_iff.mpr (hrecorded front)),
          run_bind_of_error (run_forSource_of_error (hfails _)), List.append_assoc]
        rfl
      | ok last =>
        exact exists_asks_behind hcompared hsource hlast
  · refine ⟨_, .notCompared hcompared, fun front => ?_⟩
    rw [run]
    split
    · next name message _ =>
      rw [run_bind_of_ok (run_attempt_eq_ok_iff.mpr (hrecorded front))]
      cases e.checkRaises result name message with
      | error x => rfl
      | ok u => rfl
    · rw [run_forSource, hrecorded]
    · next display hshown => exact absurd (Or.inl ⟨display, hshown⟩) hcompared
    · next source hvalue => exact absurd (Or.inr ⟨source, hvalue⟩) hcompared

/-- The recorded run of an example is its run, and its calls go behind those in front. -/
theorem run_recorded (ev : Evaluator σ) (e : Example) (line : Int) (s : σ) (front : List Call) :
    (e.run ev.recorded line).run.run (s, front) =
      (((e.run ev line).run.run s).1, ((e.run ev line).run.run s).2,
        front ++ e.asked ev line s) := by
  obtain ⟨made, -, hmade⟩ := exists_asks ev e line s
  obtain ⟨_, -, -, hrun⟩ := e.records_run ev line s front
  have hasked : e.asked ev line s = made := hmade []
  rw [hrun, hasked, ← hmade front, hrun]

theorem asks_asked (ev : Evaluator σ) (e : Example) (line : Int) (s : σ) :
    e.Asks ev line s (e.asked ev line s) := by
  obtain ⟨made, hasks, hmade⟩ := exists_asks ev e line s
  have hasked : e.asked ev line s = made := hmade []
  rw [hasked]
  exact hasks

end Runs

end Example

/-! ### Problems that are passed on -/

/-- How a group passes on the problem of an example with a line.  A failure always has a line then,
and keeps its own one if it has one. -/
inductive Problem.PassedOn (line : Int) : Problem → Problem → Prop where
  | own {f : Failure} {n : Int} (hline : f.line = some n) : PassedOn line (.failed f) (.failed f)
  | counted {f : Failure} (hline : f.line = none) :
      PassedOn line (.failed f) (.failed { f with line := some line })
  | thrown (t : Thrown) : PassedOn line (.thrown t) (.thrown t)

theorem Problem.passedOn_atLine (line : Int) (p : Problem) : p.PassedOn line (p.atLine line) := by
  cases p with
  | thrown t => exact .thrown t
  | failed f =>
    rw [atLine]
    cases hline : f.line with
    | none => exact .counted hline
    | some n =>
      have hsame : { f with line := some n } = f := by rw [← hline]
      rw [Option.getD_some, hsame]
      exact .own hline

namespace Group

/-! ### One example after the other -/

section Runs

variable (ev : Evaluator σ) (g : Group) (s : σ)

/-- The state in which the example at this place starts: the one that the example in front left. -/
def stateBefore : Nat → σ
  | 0 => s
  | k + 1 =>
    match g.examples[k]? with
    | some e => ((e.run ev (g.countedLine k)).run.run (stateBefore k)).2
    | none => stateBefore k

/-- The calls of the example at this place, in the state that the example in front left. -/
def askedAt (k : Nat) : List Call :=
  match g.examples[k]? with
  | some e => e.asked ev (g.countedLine k) (g.stateBefore ev s k)
  | none => []

/-- The calls of the examples in front of this place. -/
def askedBefore (k : Nat) : List Call := (List.range k).flatMap (g.askedAt ev s)

/-- The calls of a run. -/
def asked : List Call := ((g.run ev.recorded).run.run (s, [])).2.2

variable {ev g s} {k : Nat} {e : Example}

theorem stateBefore_succ (he : g.examples[k]? = some e) :
    g.stateBefore ev s (k + 1) =
      ((e.run ev (g.countedLine k)).run.run (g.stateBefore ev s k)).2 := by
  rw [stateBefore, he]

theorem askedBefore_succ (he : g.examples[k]? = some e) :
    g.askedBefore ev s (k + 1) =
      g.askedBefore ev s k ++ e.asked ev (g.countedLine k) (g.stateBefore ev s k) := by
  rw [askedBefore, List.range_succ, List.flatMap_append, List.flatMap_singleton, askedAt, he]
  rfl

theorem countedLine_succ (he : g.examples[k]? = some e) :
    g.countedLine (k + 1) = g.countedLine k + e.height := by
  rw [countedLine, countedLine, List.take_add_one, he]
  simp [Int.add_assoc]

/-- There is an example at this place, and it ends with this result. -/
def EndsAt (ev : Evaluator σ) (g : Group) (s : σ) (k : Nat) (result : Except Problem Value) :
    Prop :=
  ∃ e : Example, g.examples[k]? = some e ∧
    ((e.run ev (g.countedLine k)).run.run (g.stateBefore ev s k)).1 = result

/-- The first examples pass, with these values. -/
def Gives (ev : Evaluator σ) (g : Group) (s : σ) (values : List Value) : Prop :=
  ∀ (k : Nat) (v : Value), values[k]? = some v → g.EndsAt ev s k (.ok v)

theorem gives_append_iff {values : List Value} {v : Value} :
    g.Gives ev s (values ++ [v]) ↔ g.Gives ev s values ∧ g.EndsAt ev s values.length (.ok v) := by
  constructor
  · intro h
    constructor
    · intro k u hu
      refine h k u ?_
      rw [List.getElem?_append_left (List.getElem?_eq_some_iff.mp hu).1]
      exact hu
    · exact h values.length v List.getElem?_concat_length
  · rintro ⟨hvalues, hlast⟩ k u hu
    rcases Nat.lt_trichotomy k values.length with hk | rfl | hk
    · rw [List.getElem?_append_left hk] at hu
      exact hvalues k u hu
    · rw [List.getElem?_concat_length] at hu
      cases hu
      exact hlast
    · have hnone : (values ++ [v])[k]? = none := by
        rw [List.getElem?_eq_none_iff, List.length_append]
        exact hk
      rw [hnone] at hu
      cases hu

/-! #### Steps of a run -/

theorem runFrom_cons_of_ok {line : Int} {rest : List Example} {v : Value} {mid : σ}
    (h : (e.run ev line).run.run s = (.ok v, mid)) :
    (runFrom ev line (e :: rest)).run.run s =
      (((runFrom ev (line + e.height) rest).run.run mid).1.map (v :: ·),
        ((runFrom ev (line + e.height) rest).run.run mid).2) := by
  have hfirst : (ExceptT.mk do return (← (e.run ev line).run).mapError (Problem.atLine line) :
      Eval σ Problem Value).run.run s = (.ok v, mid) := by
    change (((e.run ev line).run.run s).1.mapError _, ((e.run ev line).run.run s).2) = _
    rw [h]
    rfl
  rw [runFrom, run_bind_of_ok hfirst]
  rcases hrest : (runFrom ev (line + e.height) rest).run.run mid with ⟨result, after⟩
  cases result with
  | error p => rw [run_bind_of_error hrest]; rfl
  | ok vs => rw [run_bind_of_ok hrest]; rfl

theorem runFrom_cons_of_error {line : Int} {rest : List Example} {p : Problem} {mid : σ}
    (h : (e.run ev line).run.run s = (.error p, mid)) :
    (runFrom ev line (e :: rest)).run.run s = (.error (p.atLine line), mid) := by
  refine run_bind_of_error ?_
  change (((e.run ev line).run.run s).1.mapError _, ((e.run ev line).run.run s).2) = _
  rw [h]
  rfl

/-- What is left of a recorded run behind the first examples. -/
def runBehind (ev : Evaluator σ) (g : Group) (s : σ) (k : Nat) :
    Except Problem (List Value) × σ × List Call :=
  (runFrom ev.recorded (g.countedLine k) (g.examples.drop k)).run.run
    (g.stateBefore ev s k, g.askedBefore ev s k)

theorem drop_eq_cons (he : g.examples[k]? = some e) :
    g.examples.drop k = e :: g.examples.drop (k + 1) := by
  obtain ⟨hk, rfl⟩ := List.getElem?_eq_some_iff.mp he
  exact List.drop_eq_getElem_cons hk

theorem runBehind_of_ok {v : Value} (h : g.EndsAt ev s k (.ok v)) :
    g.runBehind ev s k =
      ((g.runBehind ev s (k + 1)).1.map (v :: ·), (g.runBehind ev s (k + 1)).2) := by
  obtain ⟨e, he, hok⟩ := h
  have hrecorded := e.run_recorded ev (g.countedLine k) (g.stateBefore ev s k)
    (g.askedBefore ev s k)
  rw [hok, ← stateBefore_succ he, ← askedBefore_succ he] at hrecorded
  rw [runBehind, drop_eq_cons he, runFrom_cons_of_ok hrecorded, ← countedLine_succ he]
  rfl

theorem runBehind_of_error {p : Problem} (h : g.EndsAt ev s k (.error p)) :
    g.runBehind ev s k = (.error (p.atLine (g.countedLine k)), g.stateBefore ev s (k + 1),
      g.askedBefore ev s (k + 1)) := by
  obtain ⟨e, he, herror⟩ := h
  have hrecorded := e.run_recorded ev (g.countedLine k) (g.stateBefore ev s k)
    (g.askedBefore ev s k)
  rw [herror, ← stateBefore_succ he, ← askedBefore_succ he] at hrecorded
  rw [runBehind, drop_eq_cons he, runFrom_cons_of_error hrecorded]

theorem runBehind_zero : g.runBehind ev s 0 = (g.run ev.recorded).run.run (s, []) := by
  have hline : g.countedLine 0 = g.startLine := Int.add_zero _
  rw [runBehind, hline]
  rfl

theorem runBehind_length :
    g.runBehind ev s g.examples.length = (.ok [], g.stateBefore ev s g.examples.length,
      g.askedBefore ev s g.examples.length) := by
  rw [runBehind, List.drop_length]
  rfl

/-- Behind examples that pass, a run goes on with the next one. -/
theorem run_of_gives {values : List Value} (h : g.Gives ev s values) :
    (g.run ev.recorded).run.run (s, []) =
      ((g.runBehind ev s values.length).1.map (values ++ ·),
        (g.runBehind ev s values.length).2) := by
  induction values using List.reverseRecOn with
  | nil =>
    rw [List.length_nil, runBehind_zero]
    rcases (g.run ev.recorded).run.run (s, []) with ⟨result, after⟩
    cases result with
    | error p => rfl
    | ok vs => rfl
  | append_singleton values v ih =>
    obtain ⟨hvalues, hv⟩ := gives_append_iff.mp h
    rw [ih hvalues, runBehind_of_ok hv, List.length_append, List.length_singleton]
    rcases g.runBehind ev s (values.length + 1) with ⟨result, after⟩
    cases result with
    | error p => rfl
    | ok vs => simp [Except.map]

/-! #### How far a run goes -/

/-- A run passes its first examples until there is none left or one has a problem. -/
theorem exists_gives (ev : Evaluator σ) (g : Group) (s : σ) :
    ∃ values, g.Gives ev s values ∧
      (values.length = g.examples.length ∨ ∃ p, g.EndsAt ev s values.length (.error p)) := by
  suffices hupTo : ∀ m ≤ g.examples.length, ∃ values, g.Gives ev s values ∧
      (values.length = m ∨ ∃ p, g.EndsAt ev s values.length (.error p)) from
    hupTo _ (Nat.le_refl _)
  intro m hm
  induction m with
  | zero =>
    refine ⟨[], ?_, Or.inl rfl⟩
    intro k v hv
    cases hv
  | succ m ih =>
    obtain ⟨values, hvalues, rfl | hproblem⟩ := ih (Nat.le_of_succ_le hm)
    · have he := List.getElem?_eq_getElem hm
      cases hends : (((g.examples[values.length]).run ev (g.countedLine values.length)).run.run
          (g.stateBefore ev s values.length)).1 with
      | error p => exact ⟨values, hvalues, Or.inr ⟨p, _, he, hends⟩⟩
      | ok v =>
        refine ⟨values ++ [v], gives_append_iff.mpr ⟨hvalues, _, he, hends⟩, Or.inl ?_⟩
        rw [List.length_append, List.length_singleton]
    · exact ⟨values, hvalues, Or.inr hproblem⟩

/-- A run differs from its record by the calls alone. -/
theorem run_of_recorded {result : Except Problem (List Value)} {after : σ} {made : List Call}
    (h : (g.run ev.recorded).run.run (s, []) = (result, after, made)) :
    (g.run ev).run.run s = (result, after) ∧ g.asked ev s = made := by
  obtain ⟨made', -, -, hrun⟩ := g.records_run ev s []
  rw [asked, h]
  rw [h, Prod.mk.injEq, Prod.mk.injEq] at hrun
  exact ⟨Prod.ext hrun.1.symm hrun.2.1.symm, rfl⟩

end Runs

/-- **A run goes through its group in order and ends with the first problem.**  Each example starts
in the state that the one in front left.  Its first call is the one for its source, and only a
source with a value has its expected text evaluated (`Example.Asks`).  If all examples pass, the run
has one value for each of them; otherwise it passes the first problem on, where a failure gets the
line of its example unless it has one.  The calls of the run are those of these examples and no
others. -/
theorem run_in_order (ev : Evaluator σ) (g : Group) (s : σ) :
    (∀ (k : Nat) (e : Example), g.examples[k]? = some e →
      e.Asks ev (g.countedLine k) (g.stateBefore ev s k) (g.askedAt ev s k)) ∧
    ((∃ values, values.length = g.examples.length ∧ g.Gives ev s values ∧
        (g.run ev).run.run s = (.ok values, g.stateBefore ev s g.examples.length) ∧
        g.asked ev s = g.askedBefore ev s g.examples.length) ∨
      ∃ values p q, g.Gives ev s values ∧ g.EndsAt ev s values.length (.error p) ∧
        p.PassedOn (g.countedLine values.length) q ∧
        (g.run ev).run.run s = (.error q, g.stateBefore ev s (values.length + 1)) ∧
        g.asked ev s = g.askedBefore ev s (values.length + 1)) := by
  constructor
  · intro k e he
    rw [askedAt, he]
    exact Example.asks_asked ev e _ _
  · obtain ⟨values, hvalues, hlength | ⟨p, hproblem⟩⟩ := exists_gives ev g s
    · refine Or.inl ⟨values, hlength, hvalues, run_of_recorded ?_⟩
      rw [run_of_gives hvalues, hlength, runBehind_length, Except.map, List.append_nil]
    · refine Or.inr ⟨values, p, _, hvalues, hproblem, p.passedOn_atLine _, run_of_recorded ?_⟩
      rw [run_of_gives hvalues, runBehind_of_error hproblem, Except.map]

end Group

end DocExamples
