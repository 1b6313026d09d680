import DocExamples.Proofs.ExpectationTexts
import DocExamples.Proofs.RunCalls

/-!
# What makes an example pass

The relation `Example.Keeps` states what an example promises, by the kind of its expected result and
in terms of the calls of the evaluator alone.  The main statement is that a run returns a value
exactly if the promise is kept, and that a source which does not parse always fails the example
(`passes_iff_keeps`).
-/

namespace DocExamples

variable {σ ε α β : Type}

/-! ### Computations that succeed -/

theorem run_bind_eq_ok_iff {x : Eval σ ε α} {f : α → Eval σ ε β} {s after : σ} {b : β} :
    (x >>= f).run.run s = (.ok b, after) ↔
      ∃ a mid, x.run.run s = (.ok a, mid) ∧ (f a).run.run mid = (.ok b, after) := by
  rcases hx : x.run.run s with ⟨result, mid⟩
  cases result with
  | error e =>
    rw [run_bind_of_error hx]
    constructor
    · intro h
      cases h
    · rintro ⟨a, mid', ⟨⟩, -⟩
  | ok a =>
    rw [run_bind_of_ok hx]
    constructor
    · intro h
      exact ⟨a, mid, rfl, h⟩
    · rintro ⟨_, _, ⟨⟩, h⟩
      exact h

section Calls

variable {source display : String} {call : Eval σ Thrown α} {s after : σ}

theorem run_forSource (source display : String) (call : Eval σ Thrown α) (s : σ) :
    (Eval.forSource source display call).run.run s =
      ((call.run.run s).1.mapError (Problem.ofThrown source display), (call.run.run s).2) := by
  rw [forSource_eq]
  rfl

theorem run_forSource_eq_ok_iff {a : α} :
    (Eval.forSource source display call).run.run s = (.ok a, after) ↔
      call.run.run s = (.ok a, after) := by
  rw [run_forSource]
  rcases call.run.run s with ⟨result, mid⟩
  cases result with
  | error t =>
    constructor
    · intro h
      cases h
    · intro h
      cases h
  | ok a' =>
    constructor
    · rintro ⟨⟩
      rfl
    · rintro ⟨⟩
      rfl

theorem run_forSource_of_error {t : Thrown} (h : call.run.run s = (.error t, after)) :
    (Eval.forSource source display call).run.run s =
      (.error (.ofThrown source display t), after) := by
  rw [run_forSource, h]
  rfl

/-- A source that does not parse is a failure of the example. -/
theorem run_forSource_of_malformed {m : Malformed}
    (h : call.run.run s = (.error (.malformed m), after)) :
    (Eval.forSource source display call).run.run s =
      (.error (.failed (Check.compileFailure m source display)), after) :=
  run_forSource_of_error h

/-- Whatever a call ends with, it is a result to go on with. -/
theorem run_attempt_eq_ok_iff {outcome : Except Thrown α} :
    (ExceptT.mk do return .ok (← call.run) : Eval σ Problem _).run.run s = (.ok outcome, after) ↔
      call.run.run s = (outcome, after) := by
  change ((Except.ok (call.run.run s).1, (call.run.run s).2) = _) ↔ _
  rw [Prod.mk.injEq, Except.ok.injEq, Prod.ext_iff]

theorem run_check_eq_ok_iff {result : Except Problem α} {a : α} :
    (Eval.check result).run.run s = (.ok a, after) ↔ result = .ok a ∧ s = after := by
  change ((result, s) = _) ↔ _
  rw [Prod.mk.injEq]

theorem run_checkHeap_eq_ok_iff {ev : Evaluator σ} {result : Heap → Except Problem α} {a : α} :
    (Eval.checkHeap ev result).run.run s = (.ok a, after) ↔
      result (ev.heap s) = .ok a ∧ s = after := by
  change ((result (ev.heap s), s) = _) ↔ _
  rw [Prod.mk.injEq]

end Calls

/-! ### Checks that succeed -/

theorem strictlyEqual_eq_true_iff (heap : Heap) (v w : Value) :
    v.strictlyEqual heap w = .ok true ↔ v.kind heap = w.kind heap ∧ v.equal heap w = .ok true := by
  rw [Value.strictlyEqual]
  by_cases hkind : v.kind heap = w.kind heap
  · rw [if_pos hkind, and_iff_right hkind]
  · rw [if_neg hkind]
    simp [hkind]

theorem checkValue_eq_ok_iff {heap : Heap} {v w u : Value} {display last source : String} :
    Check.value heap v w display last source = .ok u ↔
      v = u ∧ v.kind heap = w.kind heap ∧ v.equal heap w = .ok true := by
  rw [← strictlyEqual_eq_true_iff, Check.value]
  cases v.strictlyEqual heap w with
  | error e => simp
  | ok b =>
    cases b with
    | false => simp
    | true => simp

theorem checkShown_eq_ok_iff {v u : Value} {rendered : Except Thrown String}
    {expected display last : String} :
    Check.shown v rendered expected display last = .ok u ↔ v = u ∧ rendered = .ok expected := by
  cases rendered with
  | ok actual =>
    by_cases h : actual = expected
    · simp [Check.shown, h]
    · simp [Check.shown, h]
  | error t =>
    cases t with
    | malformed m => simp [Check.shown]
    | halted h => simp [Check.shown]
    | raised e =>
      cases hordinary : e.cls.isOrdinary with
      | true => simp [Check.shown, hordinary]
      | false => simp [Check.shown, hordinary]

/-- The class is the one that a name stands for. -/
def ExceptionClass.IsNamed (c : ExceptionClass) (name : String) : Prop :=
  name = c.qualifiedName ∨ name = c.module ++ "." ++ c.qualifiedName

theorem matchesName_iff (c : ExceptionClass) (name : String) :
    c.matchesName name = true ↔ c.IsNamed name := by
  rw [ExceptionClass.matchesName, Bool.or_eq_true, decide_eq_true_eq, decide_eq_true_eq]
  exact Iff.rfl

/-- Only an exception of a program is the one expected, and it needs the right name and message. -/
theorem checkRaises_eq_ok_iff {e : Example} {outcome : Except Thrown Value}
    {name message : String} :
    e.checkRaises outcome name message = .ok () ↔
      ∃ x, outcome = .error (.raised x) ∧ x.cls.isOrdinary = true ∧ x.cls.IsNamed name ∧
        x.message = message := by
  cases outcome with
  | ok v => simp [Example.checkRaises, Check.raises]
  | error t =>
    cases t with
    | malformed m => simp [Example.checkRaises, Check.raises]
    | halted h => simp [Example.checkRaises, Check.raises]
    | raised x =>
      simp only [Except.error.injEq, Thrown.raised.injEq, exists_eq_left', ← matchesName_iff]
      cases hordinary : x.cls.isOrdinary with
      | false => simp [Example.checkRaises, Check.raises, hordinary]
      | true =>
        cases hname : x.cls.matchesName name with
        | false => simp [Example.checkRaises, Check.raises, hordinary, hname]
        | true =>
          by_cases hmessage : x.message = message
          · simp [Example.checkRaises, Check.raises, hordinary, hname, hmessage]
          · simp [Example.checkRaises, Check.raises, hordinary, hname, hmessage]

namespace Example

/-! ### Promises -/

/-- The state behind a question for the last expression of a source. -/
def behindLast (ev : Evaluator σ) (source : String) (s : σ) : σ :=
  ((ev.lastExpression source).run.run s).2

/-- The example keeps its promise in a state, with its value and the state behind it. -/
inductive Keeps (ev : Evaluator σ) (e : Example) (line : Int) (s : σ) : Value → σ → Prop where
  | unchecked {v : Value} {after : σ} (hnone : e.expectation = .none)
      (hsource : (ev.evaluate e.sourceText line).run.run s = (.ok v, after)) :
      Keeps ev e line s v after
  | value {source : String} {v w : Value} {mid after : σ} (hvalue : e.expectation = .value source)
      (hsource : (ev.evaluate e.sourceText line).run.run s = (.ok v, mid))
      (hexpected : (ev.evaluate e.expected (line + e.source.length)).run.run
        (behindLast ev e.sourceText mid) = (.ok w, after))
      (hkind : v.kind (ev.heap after) = w.kind (ev.heap after))
      (hequal : v.equal (ev.heap after) w = .ok true) :
      Keeps ev e line s v after
  | shown {display : String} {v : Value} {mid after : σ} (hshown : e.expectation = .shown display)
      (hsource : (ev.evaluate e.sourceText line).run.run s = (.ok v, mid))
      (hrender : (ev.render v).run.run (behindLast ev e.sourceText mid) =
        (.ok e.expected, after)) :
      Keeps ev e line s v after
  | exception {name message : String} {x : Raised} {after : σ}
      (hexception : e.expectation = .exception name message)
      (hsource : (ev.evaluate e.sourceText line).run.run s = (.error (.raised x), after))
      (hordinary : x.cls.isOrdinary = true) (hname : x.cls.IsNamed name)
      (hmessage : x.message = message) :
      Keeps ev e line s .none after

/-- The last expression of every source can be told, in every state. -/
def TellsLast (ev : Evaluator σ) : Prop :=
  ∀ source s, ∃ text after, (ev.lastExpression source).run.run s = (.ok text, after)

section Runs

variable {ev : Evaluator σ} {e : Example} {line : Int} {s after : σ} {v : Value}

theorem TellsLast.run_eq (hlast : TellsLast ev) (source : String) (s : σ) :
    ∃ text, (ev.lastExpression source).run.run s = (.ok text, behindLast ev source s) := by
  obtain ⟨text, after, h⟩ := hlast source s
  refine ⟨text, ?_⟩
  rw [behindLast, h]

/-- The state behind a call for the last expression, as a run goes through it. -/
theorem eq_behindLast {source display text : String} {mid : σ}
    (h : (Eval.forSource source display (ev.lastExpression source)).run.run s = (.ok text, mid)) :
    mid = behindLast ev source s := by
  rw [behindLast, run_forSource_eq_ok_iff.mp h]

theorem keeps_of_run (h : (e.run ev line).run.run s = (.ok v, after)) :
    e.Keeps ev line s v after := by
  rw [run] at h
  split at h
  · next name message hexception =>
    obtain ⟨outcome, mid, houtcome, hrest⟩ := run_bind_eq_ok_iff.mp h
    obtain ⟨_, _, hcheck, hvalue⟩ := run_bind_eq_ok_iff.mp hrest
    obtain ⟨hraises, rfl⟩ := run_check_eq_ok_iff.mp hcheck
    obtain ⟨x, rfl, hordinary, hname, hmessage⟩ := checkRaises_eq_ok_iff.mp hraises
    cases hvalue
    exact .exception hexception (run_attempt_eq_ok_iff.mp houtcome) hordinary hname hmessage
  · next hnone => exact .unchecked hnone (run_forSource_eq_ok_iff.mp h)
  · next display hshown =>
    obtain ⟨v', mid, hsource, hrest⟩ := run_bind_eq_ok_iff.mp h
    obtain ⟨last, _, hlast, hshow⟩ := run_bind_eq_ok_iff.mp hrest
    obtain ⟨rendered, _, hrender, hcheck⟩ := run_bind_eq_ok_iff.mp hshow
    obtain ⟨hequal, rfl⟩ := run_check_eq_ok_iff.mp hcheck
    obtain ⟨rfl, rfl⟩ := checkShown_eq_ok_iff.mp hequal
    obtain rfl := eq_behindLast hlast
    obtain rfl := Expectation.eq_of_ofText_eq_shown hshown
    exact .shown hshown (run_forSource_eq_ok_iff.mp hsource) (run_attempt_eq_ok_iff.mp hrender)
  · next source hvalue =>
    obtain ⟨v', mid, hsource, hrest⟩ := run_bind_eq_ok_iff.mp h
    obtain ⟨last, _, hlast, hcompare⟩ := run_bind_eq_ok_iff.mp hrest
    obtain ⟨w, _, hexpected, hcheck⟩ := run_bind_eq_ok_iff.mp hcompare
    obtain ⟨hsame, rfl⟩ := run_checkHeap_eq_ok_iff.mp hcheck
    obtain ⟨rfl, hkind, hequal⟩ := checkValue_eq_ok_iff.mp hsame
    obtain rfl := eq_behindLast hlast
    obtain rfl := Expectation.eq_of_ofText_eq_value hvalue
    exact .value hvalue (run_forSource_eq_ok_iff.mp hsource) (run_forSource_eq_ok_iff.mp hexpected)
      hkind hequal

/-- Behind the calls of the evaluator, an example that promises a value is a check of values. -/
theorem run_of_value {source last : String} {w : Value} {mid behind : σ}
    (hvalue : e.expectation = .value source)
    (hsource : (ev.evaluate e.sourceText line).run.run s = (.ok v, mid))
    (hlast : (ev.lastExpression e.sourceText).run.run mid = (.ok last, behind))
    (hexpected : (ev.evaluate source (line + e.source.length)).run.run behind = (.ok w, after)) :
    (e.run ev line).run.run s =
      (Check.value (ev.heap after) v w e.display last source, after) := by
  rw [run, hvalue]
  change (_ >>= _ : Eval σ Problem Value).run.run s = _
  rw [run_bind_of_ok (run_forSource_eq_ok_iff.mpr hsource),
    run_bind_of_ok (run_forSource_eq_ok_iff.mpr hlast),
    run_bind_of_ok (run_forSource_eq_ok_iff.mpr hexpected)]
  rfl

theorem run_of_value_error {source last : String} {t : Thrown} {mid behind : σ}
    (hvalue : e.expectation = .value source)
    (hsource : (ev.evaluate e.sourceText line).run.run s = (.ok v, mid))
    (hlast : (ev.lastExpression e.sourceText).run.run mid = (.ok last, behind))
    (hexpected : (ev.evaluate source (line + e.source.length)).run.run behind = (.error t, after)) :
    (e.run ev line).run.run s = (.error (.ofThrown source e.display t), after) := by
  rw [run, hvalue]
  change (_ >>= _ : Eval σ Problem Value).run.run s = _
  rw [run_bind_of_ok (run_forSource_eq_ok_iff.mpr hsource),
    run_bind_of_ok (run_forSource_eq_ok_iff.mpr hlast),
    run_bind_of_error (run_forSource_of_error hexpected)]

theorem run_of_shown {display last : String} {mid behind : σ}
    (hshown : e.expectation = .shown display)
    (hsource : (ev.evaluate e.sourceText line).run.run s = (.ok v, mid))
    (hlast : (ev.lastExpression e.sourceText).run.run mid = (.ok last, behind)) :
    (e.run ev line).run.run s =
      (Check.shown v ((ev.render v).run.run behind).1 display e.display last,
        ((ev.render v).run.run behind).2) := by
  rcases hrender : (ev.render v).run.run behind with ⟨rendered, after⟩
  rw [run, hshown]
  change (_ >>= _ : Eval σ Problem Value).run.run s = _
  rw [run_bind_of_ok (run_forSource_eq_ok_iff.mpr hsource),
    run_bind_of_ok (run_forSource_eq_ok_iff.mpr hlast),
    run_bind_of_ok (run_attempt_eq_ok_iff.mpr hrender)]
  rfl

/-- An example that keeps its promise returns its value. -/
theorem Keeps.run_eq (htells : TellsLast ev) (h : e.Keeps ev line s v after) :
    (e.run ev line).run.run s = (.ok v, after) := by
  cases h with
  | unchecked hnone hsource =>
    rw [run, hnone]
    exact run_forSource_eq_ok_iff.mpr hsource
  | @value source _ w mid _ hvalue hsource hexpected hkind hequal =>
    obtain ⟨last, hlast⟩ := htells.run_eq e.sourceText mid
    obtain rfl := Expectation.eq_of_ofText_eq_value hvalue
    rw [run_of_value hvalue hsource hlast hexpected,
      checkValue_eq_ok_iff.mpr ⟨rfl, hkind, hequal⟩]
  | @shown display _ mid _ hshown hsource hrender =>
    obtain ⟨last, hlast⟩ := htells.run_eq e.sourceText mid
    obtain rfl := Expectation.eq_of_ofText_eq_shown hshown
    rw [run_of_shown hshown hsource hlast, hrender, checkShown_eq_ok_iff.mpr ⟨rfl, rfl⟩]
  | @exception name message x _ hexception hsource hordinary hname hmessage =>
    rw [run, hexception]
    refine run_bind_eq_ok_iff.mpr ⟨_, after, run_attempt_eq_ok_iff.mpr hsource, ?_⟩
    refine run_bind_eq_ok_iff.mpr ⟨(), after, run_check_eq_ok_iff.mpr ⟨?_, rfl⟩, rfl⟩
    exact checkRaises_eq_ok_iff.mpr ⟨x, rfl, hordinary, hname, hmessage⟩

/-! ### Sources that do not parse -/

/-- Whatever is promised, a source that does not parse fails the example. -/
theorem run_of_malformed {m : Malformed}
    (h : (ev.evaluate e.sourceText line).run.run s = (.error (.malformed m), after)) :
    (e.run ev line).run.run s =
      (.error (.failed (Check.compileFailure m e.sourceText e.display)), after) := by
  have hsource : (Eval.forSource e.sourceText e.display _).run.run s = _ :=
    run_forSource_of_malformed h
  rw [run]
  split
  · next name message _ =>
    have hcheck : e.checkRaises (.error (.malformed m)) name message =
        .error (.failed (Check.compileFailure m e.sourceText e.display)) := rfl
    rw [run_bind_of_ok (run_attempt_eq_ok_iff.mpr h)]
    exact run_bind_of_error (congrArg (·, after) hcheck)
  · exact hsource
  · exact run_bind_of_error hsource
  · exact run_bind_of_error hsource

/-- So does an expected result that does not parse. -/
theorem run_of_malformed_expected (htells : TellsLast ev) {source : String} {mid : σ}
    {m : Malformed}
    (hvalue : e.expectation = .value source)
    (hsource : (ev.evaluate e.sourceText line).run.run s = (.ok v, mid))
    (hexpected : (ev.evaluate e.expected (line + e.source.length)).run.run
      (behindLast ev e.sourceText mid) = (.error (.malformed m), after)) :
    (e.run ev line).run.run s =
      (.error (.failed (Check.compileFailure m e.expected e.display)), after) := by
  obtain ⟨last, hlast⟩ := htells.run_eq e.sourceText mid
  obtain rfl := Expectation.eq_of_ofText_eq_value hvalue
  rw [run_of_value_error hvalue hsource hlast hexpected]
  rfl

/-- **An example passes exactly if its promise is kept.**  A run returns a value in a state if and
only if the calls of the evaluator keep what the expected text promises.  A source, or an expected
value, that does not parse is always a failure, whatever is promised. -/
theorem passes_iff_keeps (htells : TellsLast ev) (e : Example) (line : Int) (s : σ) :
    (∀ v after, (e.run ev line).run.run s = (.ok v, after) ↔ e.Keeps ev line s v after) ∧
    (∀ m after, (ev.evaluate e.sourceText line).run.run s = (.error (.malformed m), after) →
      (e.run ev line).run.run s =
        (.error (.failed (Check.compileFailure m e.sourceText e.display)), after)) ∧
    (∀ source v mid m after, e.expectation = .value source →
      (ev.evaluate e.sourceText line).run.run s = (.ok v, mid) →
      (ev.evaluate e.expected (line + e.source.length)).run.run (behindLast ev e.sourceText mid) =
        (.error (.malformed m), after) →
      (e.run ev line).run.run s =
        (.error (.failed (Check.compileFailure m e.expected e.display)), after)) := by
  refine ⟨?_, ?_, ?_⟩
  · intro v after
    constructor
    · intro h
      exact keeps_of_run h
    · intro h
      exact h.run_eq htells
  · intro m after h
    exact run_of_malformed h
  · intro source v mid m after hvalue hsource hexpected
    exact run_of_malformed_expected htells hvalue hsource hexpected

end Runs

/-! ### Tables -/

theorem tellsLast_ofTable (heap : Heap) (table : List (String × TableAnswer)) :
    TellsLast (TableEvaluator.ofTable heap table) := by
  intro source calls
  change ∃ text after, (TableEvaluator.log _ >>= _ : Eval _ _ _).run.run calls = _
  have hlog : (TableEvaluator.log (.lastExpression source)).run.run calls =
      (.ok (), calls ++ [.lastExpression source]) := rfl
  rw [run_bind_of_ok hlog]
  split
  · next last _ => exact ⟨last, _, rfl⟩
  · exact ⟨source, _, rfl⟩

/-- Two sources with values, and one that does not parse. -/
def sampleTable : List (String × TableAnswer) :=
  [("greet('Ann')", .value (.str "Hello, Ann") none),
   ("'Hello, Ann'", .value (.str "Hello, Ann") none),
   ("greet(", .malformed "'(' was never closed" (some (.builtin "SyntaxError")) (some 0))]

/-- A greeting that comes out as documented passes; an open bracket fails even where an exception
is expected for it. -/
theorem passes_sampleTable :
    ((run (TableEvaluator.ofTable {} sampleTable)
        ⟨["greet('Ann')"], "'Hello, Ann'", "iex> greet('Ann')"⟩ 7).run.run [] =
      (.ok (.str "Hello, Ann"), [.evaluate "greet('Ann')" 7, .lastExpression "greet('Ann')",
        .evaluate "'Hello, Ann'" 8])) ∧
    (∃ f, (run (TableEvaluator.ofTable {} sampleTable)
        ⟨["greet("], "** (SyntaxError) '(' was never closed", "iex> greet("⟩ 7).run.run [] =
      (.error (.failed f), [.evaluate "greet(" 7])) := by
  constructor
  · refine ((passes_iff_keeps (tellsLast_ofTable {} sampleTable) _ 7 []).1 _ _).mpr ?_
    exact .value rfl rfl rfl rfl rfl
  · refine ⟨_, (passes_iff_keeps (tellsLast_ofTable {} sampleTable) _ 7 []).2.1 ?_ _ ?_⟩
    · exact {
        message := "'(' was never closed"
        line := some 7
        place := {}
        text := "line 7: '(' was never closed"
        text_eq := by decide +kernel
        cause := some (.builtin "SyntaxError") }
    · rfl

end Example

end DocExamples
