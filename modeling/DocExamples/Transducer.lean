/-!
Machines that read a list item by item.

A machine has a state; each step reads one item, may fail, gives out a list of results and moves to
the next state; at the end of the input a last list is given out.  A `Rereader` may look at an item
several times before it moves on.  Main statements: the results of a run are those of its first step
followed by those of the run on the rest (`run_cons`), and a list can be fed to a machine in two
parts (`feed_append`).
-/

namespace DocExamples.Transducer

variable {σ α β : Type} {m : Type → Type} [Monad m]

/-- Run a machine from a state; `done` holds what was given out so far, the last result first. -/
@[specialize] def runOnto (step : σ → α → m (List β × σ)) (finish : σ → List β) (done : List β)
    (s : σ) : List α → m (List β)
  | [] => pure (done.reverse ++ finish s)
  | x :: xs => do
    let (out, after) ← step s x
    runOnto step finish (out.reverse ++ done) after xs

/-- All results that a machine gives out while it reads a list. -/
@[inline] def run (step : σ → α → m (List β × σ)) (finish : σ → List β) (s : σ)
    (xs : List α) : m (List β) :=
  runOnto step finish [] s xs

/-- What a machine gives out while it reads a list, and the state that it ends in. -/
def feed (step : σ → α → m (List β × σ)) (s : σ) : List α → m (List β × σ)
  | [] => pure ([], s)
  | x :: xs => do
    let (out, after) ← step s x
    let (more, final) ← feed step after xs
    pure (out ++ more, final)

section Laws

variable [LawfulMonad m] (step : σ → α → m (List β × σ)) (finish : σ → List β)

theorem runOnto_eq_map (done : List β) (s : σ) (xs : List α) :
    runOnto step finish done s xs = (done.reverse ++ ·) <$> run step finish s xs := by
  induction xs generalizing done s with
  | nil => simp [run, runOnto]
  | cons x xs ih =>
    simp only [run, runOnto, map_bind]
    congr 1
    funext p
    rw [ih (p.1.reverse ++ done), ih (p.1.reverse ++ [])]
    simp [Functor.map_map, List.append_assoc]

omit [LawfulMonad m] in
@[simp] theorem run_nil (s : σ) : run step finish s [] = pure (finish s) := by
  simp [run, runOnto]

/-- The first step, then the rest. -/
theorem run_cons (s : σ) (x : α) (xs : List α) :
    run step finish s (x :: xs) =
      step s x >>= fun p => (p.1 ++ ·) <$> run step finish p.2 xs := by
  rw [run, runOnto]
  congr 1
  funext ⟨out, after⟩
  simp only [List.append_nil]
  rw [runOnto_eq_map, List.reverse_reverse]

omit [LawfulMonad m] in
@[simp] theorem feed_nil (s : σ) : feed step s [] = pure ([], s) := rfl

theorem feed_cons (s : σ) (x : α) (xs : List α) :
    feed step s (x :: xs) =
      step s x >>= fun p => (fun q => (p.1 ++ q.1, q.2)) <$> feed step p.2 xs := by
  simp only [feed, map_eq_pure_bind]

/-- A run is the feeding of the whole list, and what is given out at its end. -/
theorem run_eq_feed (s : σ) (xs : List α) :
    run step finish s xs = (fun p => p.1 ++ finish p.2) <$> feed step s xs := by
  induction xs generalizing s with
  | nil => simp
  | cons x xs ih => simp [run_cons, feed_cons, ih, Functor.map_map, List.append_assoc]

/-- The first part of a list, then the rest from the state reached. -/
theorem feed_append (s : σ) (xs ys : List α) :
    feed step s (xs ++ ys) =
      feed step s xs >>= fun p => (fun q => (p.1 ++ q.1, q.2)) <$> feed step p.2 ys := by
  induction xs generalizing s with
  | nil => simp
  | cons x xs ih => simp [feed_cons, ih, Functor.map_map, List.append_assoc]

end Laws

section Failing

variable {ε : Type} {step : σ → α → Except ε (List β × σ)} {s after final : σ} {out : List β}

theorem feed_cons_of_ok {x : α} (xs : List α) (h : step s x = .ok (out, after)) :
    feed step s (x :: xs) = (feed step after xs).map fun q => (out ++ q.1, q.2) := by
  rw [feed_cons, h]
  rfl

theorem feed_cons_of_error {x : α} {e : ε} (xs : List α) (h : step s x = .error e) :
    feed step s (x :: xs) = .error e := by
  rw [feed_cons, h]
  rfl

theorem feed_append_of_ok {xs : List α} (ys : List α) (h : feed step s xs = .ok (out, after)) :
    feed step s (xs ++ ys) = (feed step after ys).map fun q => (out ++ q.1, q.2) := by
  rw [feed_append, h]
  rfl

theorem feed_append_of_error {xs : List α} {e : ε} (ys : List α)
    (h : feed step s xs = .error e) : feed step s (xs ++ ys) = .error e := by
  rw [feed_append, h]
  rfl

/-- A computation of two steps succeeds if both steps do. -/
theorem exists_of_bind_eq_ok {γ δ : Type} {x : Except ε γ} {f : γ → Except ε δ} {d : δ}
    (h : x >>= f = .ok d) : ∃ c, x = .ok c ∧ f c = .ok d := by
  cases x with
  | error e => cases h
  | ok c => exact ⟨c, rfl, h⟩

theorem exists_of_map_eq_ok {γ δ : Type} {x : Except ε γ} {f : γ → δ} {d : δ}
    (h : x.map f = .ok d) : ∃ c, x = .ok c ∧ f c = d := by
  cases x with
  | error e => cases h
  | ok c => exact ⟨c, rfl, Except.ok.inj h⟩

theorem map_eq_error_iff {γ δ : Type} {x : Except ε γ} {f : γ → δ} {e : ε} :
    x.map f = .error e ↔ x = .error e := by
  cases x with
  | error e' => rw [Except.map, Except.error.injEq, Except.error.injEq]
  | ok c =>
    constructor
    · intro h
      cases h
    · intro h
      cases h

theorem feed_cons_eq_ok {x : α} {xs : List α} (h : feed step s (x :: xs) = .ok (out, final)) :
    ∃ first after more, step s x = .ok (first, after) ∧ feed step after xs = .ok (more, final) ∧
      out = first ++ more := by
  rw [feed_cons] at h
  obtain ⟨⟨first, after⟩, hstep, h⟩ := exists_of_bind_eq_ok h
  rw [map_eq_pure_bind] at h
  obtain ⟨⟨more, _⟩, hrest, h⟩ := exists_of_bind_eq_ok h
  cases h
  exact ⟨first, after, more, hstep, hrest, rfl⟩

end Failing

/-! ### Looking at an item again -/

/-- What a machine does with the item in front of it. -/
inductive Turn (σ α β : Type) where
  /-- The item is read: results are given out, and the next item comes. -/
  | taken (out : List β) (after : σ)
  /-- The item, or another one in its place, is looked at again. -/
  | again (after : σ) (item : α)
deriving DecidableEq, Repr

/-- A machine that may look at an item more than once.  Each further look lowers the rank of what
is in front of it, so that it moves on at last. -/
structure Rereader (ε σ α β : Type) where
  turn : σ → α → Except ε (Turn σ α β)
  rank : σ → α → Nat
  rank_lt : ∀ {s x s' x'}, turn s x = .ok (.again s' x') → rank s' x' < rank s x

namespace Rereader

variable {ε : Type} (r : Rereader ε σ α β)

/-- Look at an item until it is read. -/
def settle (s : σ) (x : α) : Except ε (List β × σ) :=
  match _h : r.turn s x with
  | .error e => .error e
  | .ok (.taken out after) => .ok (out, after)
  | .ok (.again after item) => settle after item
termination_by r.rank s x
decreasing_by exact r.rank_lt _h

/-- All results that the machine gives out while it reads a list. -/
def run (finish : σ → List β) (s : σ) (xs : List α) : Except ε (List β) :=
  Transducer.run r.settle finish s xs

variable {r}

theorem settle_of_error {s : σ} {x : α} {e : ε} (h : r.turn s x = .error e) :
    r.settle s x = .error e := by
  rw [settle]
  split <;> simp_all

theorem settle_of_taken {s after : σ} {x : α} {out : List β}
    (h : r.turn s x = .ok (.taken out after)) : r.settle s x = .ok (out, after) := by
  rw [settle]
  split <;> simp_all

theorem settle_of_again {s after : σ} {x item : α} (h : r.turn s x = .ok (.again after item)) :
    r.settle s x = r.settle after item := by
  rw [settle]
  split <;> simp_all

end Rereader

end DocExamples.Transducer
