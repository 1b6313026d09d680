import DocExamples.Proofs.Promises
import DocExamples.Proofs.ShownValues

/-!
# Failures that can be reported

A failed comparison of values is reported with both of them, and the report is made when the failure
is.  So a comparison is not reported if one of its values cannot be shown.  The main statement is
that this, and a comparison that does not come to an end, are all that keeps a promised value from
being reported (`reports_iff`).
-/

namespace DocExamples

variable {σ : Type}

/-! ### Building failures -/

section Failures

variable {heap : Heap} {message : String} {display code : Option String} {left right : Value}
  {line : Option Int}

theorem shown_none : Value.none.shown heap = .ok "None" := rfl

/-- The value found is shown first. -/
theorem build_eq_error_iff {x : Raised} :
    Failure.build heap message display code left right line = .error x ↔
      left.shown heap = .error x ∨ left.CanShow heap ∧ right.shown heap = .error x := by
  rw [Failure.build, bind_pure_eq_error_iff, Failure.valueLines, ← Value.exists_shown_iff]
  split
  · next hnone =>
    obtain ⟨rfl, rfl⟩ := hnone
    simp [shown_none]
  · rw [bind_eq_error_iff]
    simp only [bind_pure_eq_error_iff]
    constructor
    · rintro (h | ⟨text, htext, h⟩)
      · exact Or.inl h
      · exact Or.inr ⟨⟨text, htext⟩, h⟩
    · rintro (h | ⟨⟨text, htext⟩, h⟩)
      · exact Or.inl h
      · exact Or.inr ⟨text, htext, h⟩

theorem exists_build_iff :
    (∃ f, Failure.build heap message display code left right line = .ok f) ↔
      left.CanShow heap ∧ right.CanShow heap := by
  rw [Failure.build, exists_bind_pure_eq_ok_iff, Failure.valueLines, ← Value.exists_shown_iff,
    ← Value.exists_shown_iff]
  split
  · next hnone =>
    obtain ⟨rfl, rfl⟩ := hnone
    simp [shown_none]
  · rw [exists_bind_eq_ok_iff]
    simp only [exists_bind_pure_eq_ok_iff]
    constructor
    · rintro ⟨text, htext, hright⟩
      exact ⟨⟨text, htext⟩, hright⟩
    · rintro ⟨⟨text, htext⟩, hright⟩
      exact ⟨text, htext, hright⟩

theorem display_of_build {f : Failure}
    (h : Failure.build heap message display code left right line = .ok f) :
    f.display = display := by
  rw [Failure.build] at h
  cases hvalues : Failure.valueLines heap left right with
  | error x =>
    rw [hvalues] at h
    cases h
  | ok values =>
    rw [hvalues] at h
    cases h
    rfl

end Failures

/-- What was thrown is an error of a program. -/
def Thrown.IsOrdinary : Thrown → Prop
  | .malformed _ => True
  | .raised x => x.cls.isOrdinary = true
  | .halted _ => False

namespace Example

/-! ### Reported checks -/

/-- The result is the value of the example, or a failure that carries the example as documented. -/
def Reports (e : Example) (v : Value) (result : Except Problem Value) : Prop :=
  result = .ok v ∨ ∃ f, result = .error (.failed f) ∧ f.display = some e.display

section Checks

variable {heap : Heap} {e : Example} {v w : Value} {last : String}

theorem Reports.ok : e.Reports v (.ok v) := Or.inl rfl

theorem reports_failed_iff {f : Failure} :
    e.Reports v (.error (.failed f)) ↔ f.display = some e.display := by
  constructor
  · rintro (h | ⟨_, h, hdisplay⟩)
    · cases h
    · cases h
      exact hdisplay
  · intro hdisplay
    exact Or.inr ⟨f, rfl, hdisplay⟩

theorem not_reports_thrown {t : Thrown} : ¬e.Reports v (.error (.thrown t)) := by
  rintro (h | ⟨_, h, -⟩)
  · cases h
  · cases h

/-- A failure is reported if it can be built. -/
theorem reports_ofBuild_iff {message : String} {code : Option String} {left right : Value}
    {line : Option Int} :
    e.Reports v (.error (.ofBuild
        (Failure.build heap message (some e.display) code left right line))) ↔
      left.CanShow heap ∧ right.CanShow heap := by
  have hbuilt : (∃ f, Failure.build heap message (some e.display) code left right line = .ok f) ↔
      left.CanShow heap ∧ right.CanShow heap := exists_build_iff
  rw [← hbuilt]
  cases hbuild : Failure.build heap message (some e.display) code left right line with
  | error x =>
    constructor
    · intro h
      exact absurd h not_reports_thrown
    · rintro ⟨f, ⟨⟩⟩
  | ok f =>
    constructor
    · intro _
      exact ⟨f, rfl⟩
    · intro _
      exact reports_failed_iff.mpr (display_of_build hbuild)

/-- Values that differ need to be shown, values that are equal do not. -/
theorem reports_checkValue_iff {source : String} :
    e.Reports v (Check.value heap v w e.display last source) ↔
      v.strictlyEqual heap w = .ok true ∨
      v.strictlyEqual heap w = .ok false ∧ v.CanShow heap ∧ w.CanShow heap := by
  rw [Check.value]
  cases v.strictlyEqual heap w with
  | error x => simp [not_reports_thrown]
  | ok same =>
    cases same with
    | true => simp [Reports.ok]
    | false => simp [reports_ofBuild_iff]

theorem ofBuild_eq_raised_iff {built : Except Raised Failure} {x : Raised} :
    Problem.ofBuild built = .thrown (.raised x) ↔ built = .error x := by
  cases built with
  | error y => simp [Problem.ofBuild]
  | ok f => simp [Problem.ofBuild]

theorem checkValue_eq_raised_iff {source : String} {x : Raised} :
    Check.value heap v w e.display last source = .error (.thrown (.raised x)) ↔
      v.strictlyEqual heap w = .error x ∨
      v.strictlyEqual heap w = .ok false ∧
        (v.shown heap = .error x ∨ v.CanShow heap ∧ w.shown heap = .error x) := by
  rw [Check.value]
  cases v.strictlyEqual heap w with
  | error y => simp
  | ok same =>
    cases same with
    | true => simp
    | false => simp [ofBuild_eq_raised_iff, build_eq_error_iff]

theorem canShow_str (s : String) : (Value.str s).CanShow heap :=
  (Value.exists_shown_iff heap (.str s)).mp ⟨_, rfl⟩

/-- A text that differs can always be shown. -/
theorem reports_checkShown_iff {rendered : Except Thrown String} {display : String} :
    e.Reports v (Check.shown v rendered display e.display last) ↔
      ∀ t, rendered = .error t → t.IsOrdinary := by
  cases rendered with
  | ok actual =>
    rw [Check.shown]
    split
    · simp [Reports.ok]
    · simp [reports_ofBuild_iff, canShow_str]
  | error t =>
    simp only [Except.error.injEq, forall_eq']
    cases t with
    | malformed m => simp [Check.shown, reports_failed_iff, Failure.plain, Thrown.IsOrdinary]
    | halted h => simp [Check.shown, not_reports_thrown, Thrown.IsOrdinary]
    | raised x =>
      rw [Check.shown, Thrown.IsOrdinary]
      split
      · next hordinary => simp [reports_failed_iff, Failure.plain, hordinary]
      · next hordinary => simp [not_reports_thrown, hordinary]

end Checks

/-! ### Reported examples -/

section Runs

variable {ev : Evaluator σ} {e : Example} {line : Int} {s mid behind after : σ} {v w : Value}
  {last : String}

/-- **A promised value is reported unless it cannot be compared or shown.**  Where the evaluator has
an answer to every question that a run asks, an example that promises a value gives its value or a
failure that carries it as documented exactly if the two values are equal, or differ and can both be
shown.  What is raised otherwise comes from comparing the values or from showing the first one that
cannot be shown.  An example that promises a shown form is reported unless the evaluator shows the
value with something that is no error of a program. -/
theorem reports_iff (ev : Evaluator σ) (e : Example) (line : Int) (s mid behind : σ) (v : Value)
    (last : String)
    (hsource : (ev.evaluate e.sourceText line).run.run s = (.ok v, mid))
    (hlast : (ev.lastExpression e.sourceText).run.run mid = (.ok last, behind)) :
    (∀ source w after, e.expectation = .value source →
      (ev.evaluate source (line + e.source.length)).run.run behind = (.ok w, after) →
      (e.Reports v ((e.run ev line).run.run s).1 ↔
        v.strictlyEqual (ev.heap after) w = .ok true ∨
        v.strictlyEqual (ev.heap after) w = .ok false ∧
          v.CanShow (ev.heap after) ∧ w.CanShow (ev.heap after)) ∧
      ∀ x, ((e.run ev line).run.run s).1 = .error (.thrown (.raised x)) ↔
        v.strictlyEqual (ev.heap after) w = .error x ∨
        v.strictlyEqual (ev.heap after) w = .ok false ∧
          (v.shown (ev.heap after) = .error x ∨
            v.CanShow (ev.heap after) ∧ w.shown (ev.heap after) = .error x)) ∧
    ∀ display, e.expectation = .shown display →
      (e.Reports v ((e.run ev line).run.run s).1 ↔
        ∀ t, ((ev.render v).run.run behind).1 = .error t → t.IsOrdinary) := by
  constructor
  · intro source w after hvalue hexpected
    rw [run_of_value hvalue hsource hlast hexpected]
    constructor
    · exact reports_checkValue_iff
    · intro x
      exact checkValue_eq_raised_iff
  · intro display hshown
    rw [run_of_shown hshown hsource hlast]
    exact reports_checkShown_iff

end Runs

/-! ### Tables -/

/-- A call that is promised to give one. -/
def failingCall : Example := ⟨["f()"], "1", "iex> f()\n1"⟩

/-- Sources whose values differ; objects hold the other values that the heap holds. -/
def failingTable (v : Value) : List (String × TableAnswer) :=
  [("f()", .value v none), ("1", .value (.int 1) none)]

/-- A wrong number is reported; a list is not, if something in it cannot be shown. -/
theorem reports_failingTable :
    failingCall.Reports (.int 2)
      ((failingCall.run (TableEvaluator.ofTable {} (failingTable (.int 2))) 3).run.run []).1 ∧
    ((failingCall.run (TableEvaluator.ofTable ⟨#[.list [.int 2, .unshowable 0 "boom"]]⟩
        (failingTable (.object 0))) 3).run.run []).1 =
      .error (.thrown (.raised (.builtin "RuntimeError" "boom"))) := by
  constructor
  · have hreports := reports_iff (TableEvaluator.ofTable {} (failingTable (.int 2))) failingCall 3
      [] _ _ (.int 2) _ rfl rfl
    refine (hreports.1 "1" (.int 1) _ rfl rfl).1.mpr (Or.inr ⟨rfl, ?_, ?_⟩)
    · exact (Value.exists_shown_iff _ _).mp ⟨_, rfl⟩
    · exact (Value.exists_shown_iff _ _).mp ⟨_, rfl⟩
  · have hreports := reports_iff (TableEvaluator.ofTable ⟨#[.list [.int 2, .unshowable 0 "boom"]]⟩
      (failingTable (.object 0))) failingCall 3 [] _ _ (.object 0) _ rfl rfl
    refine ((hreports.1 "1" (.int 1) _ rfl rfl).2 _).mpr (Or.inr ⟨rfl, Or.inl rfl⟩)

/-- The evaluator answers every call, and still the showing of the value takes the place of the
failure. -/
theorem showing_escapes :
    ((failingCall.run (TableEvaluator.ofTable {} (failingTable (.unshowable 0 "boom"))) 3).run.run
        []) =
      (.error (.thrown (.raised (.builtin "RuntimeError" "boom"))),
        [.evaluate "f()" 3, .lastExpression "f()", .evaluate "1" 4]) ∧
    ¬failingCall.Reports (.unshowable 0 "boom")
      ((failingCall.run (TableEvaluator.ofTable {} (failingTable (.unshowable 0 "boom"))) 3).run.run
        []).1 := by
  constructor
  · rfl
  · exact not_reports_thrown

end Example

end DocExamples
