import DocExamples.Proofs.Results
import DocExamples.Transducer

/-!
# Loops over a list

A machine that may look at an item again is run by a loop, which goes on to the next place only
when an item is read.  An item that is looked at again may be replaced where it stands.  As the
rank falls with each further look, a loop comes to its end with what the machine makes of the list
(`endsWithin`), and stays in one place for few passes only (`Leads.le_of_place_eq`).
-/

namespace DocExamples.Transducer

variable {ε σ α β : Type}

/-- The state behind a look at an item. -/
def Turn.state : Turn σ α β → σ
  | .taken _ after => after
  | .again after _ => after

/-- A loop over a list. -/
structure Loop (σ α β : Type) where
  items : List α
  /-- The place of the next item. -/
  place : Nat := 0
  state : σ
  /-- What was given out so far. -/
  out : List β := []

namespace Loop

/-- The loop behind a look at its next item. -/
def behind (l : Loop σ α β) : Turn σ α β → Loop σ α β
  | .taken out after => { l with place := l.place + 1, state := after, out := l.out ++ out }
  | .again after item => { l with items := l.items.set l.place item, state := after }

@[simp] theorem state_behind (l : Loop σ α β) (t : Turn σ α β) : (l.behind t).state = t.state := by
  cases t <;> rfl

theorem getElem?_of_drop {l : Loop σ α β} {x : α} {rest : List α}
    (h : l.items.drop l.place = x :: rest) : l.items[l.place]? = some x := by
  have hhead := congrArg (·[0]?) h
  simpa using hhead

theorem drop_behind_taken {l : Loop σ α β} {x : α} {rest : List α} (out : List β) (after : σ)
    (h : l.items.drop l.place = x :: rest) :
    (l.behind (.taken out after)).items.drop (l.behind (.taken out after)).place = rest := by
  change l.items.drop (l.place + 1) = rest
  rw [← List.drop_drop, h]
  rfl

theorem drop_behind_again {l : Loop σ α β} {x : α} {rest : List α} (after : σ) (item : α)
    (h : l.items.drop l.place = x :: rest) :
    (l.behind (.again after item)).items.drop (l.behind (.again after item)).place =
      item :: rest := by
  change (l.items.set l.place item).drop l.place = item :: rest
  rw [List.drop_set, if_neg (Nat.lt_irrefl _), h, Nat.sub_self]
  rfl

end Loop

namespace Rereader

variable (r : Rereader ε σ α β)

/-- One pass of a loop, if an item is left. -/
def pass (l : Loop σ α β) : Option (Except ε (Loop σ α β)) :=
  l.items[l.place]?.map fun item => (r.turn l.state item).map l.behind

/-- So many passes lead from one loop to another one. -/
inductive Leads : Nat → Loop σ α β → Loop σ α β → Prop where
  | refl (l : Loop σ α β) : Leads 0 l l
  | tail {n : Nat} {l m after : Loop σ α β} (h : Leads n l m)
      (hpass : r.pass m = some (.ok after)) : Leads (n + 1) l after

/-- So many passes bring a loop to its end: no item is left, or the last pass fails. -/
inductive Ends : Nat → Loop σ α β → Except ε (Loop σ α β) → Prop where
  | finished {l : Loop σ α β} (h : r.pass l = none) : Ends 0 l (.ok l)
  | failed {l : Loop σ α β} {e : ε} (h : r.pass l = some (.error e)) : Ends 1 l (.error e)
  | passed {n : Nat} {l after : Loop σ α β} {result : Except ε (Loop σ α β)}
      (h : r.pass l = some (.ok after)) (hrest : Ends n after result) : Ends (n + 1) l result

variable {r} {k n : Nat} {l m : Loop σ α β}

theorem pass_of_drop {x : α} {rest : List α} (h : l.items.drop l.place = x :: rest) :
    r.pass l = some ((r.turn l.state x).map l.behind) := by
  rw [pass, Loop.getElem?_of_drop h, Option.map_some]

theorem exists_of_pass (h : r.pass l = some (.ok m)) :
    ∃ x turn, l.items[l.place]? = some x ∧ r.turn l.state x = .ok turn ∧ l.behind turn = m := by
  obtain ⟨x, hx, hturn⟩ := Option.map_eq_some_iff.mp h
  obtain ⟨turn, hturn, hbehind⟩ := exists_of_map_eq_ok hturn
  exact ⟨x, turn, hx, hturn, hbehind⟩

/-! ### The end of a loop -/

/-- A loop ends within so many passes, with what the machine makes of the items that are left. -/
def EndsWithin (r : Rereader ε σ α β) (bound : Nat) (l : Loop σ α β) (rest : List α) : Prop :=
  ∃ n result, n ≤ bound ∧ r.Ends n l result ∧
    result.map (fun m => (m.out, m.state)) =
      (feed r.settle l.state rest).map fun p => (l.out ++ p.1, p.2)

section EndsWithin

variable {b c : Nat} {x item : α} {rest : List α} {out : List β} {after : σ}

theorem EndsWithin.mono (h : r.EndsWithin b l rest) (hle : b ≤ c) : r.EndsWithin c l rest := by
  obtain ⟨n, result, hn, hends, hresult⟩ := h
  exact ⟨n, result, Nat.le_trans hn hle, hends, hresult⟩

theorem EndsWithin.map_out (h : r.EndsWithin b l rest) :
    ∃ n result, n ≤ b ∧ r.Ends n l result ∧
      result.map (·.out) = (feed r.settle l.state rest).map fun p => l.out ++ p.1 := by
  obtain ⟨n, result, hn, hends, hresult⟩ := h
  have hout := congrArg (Except.map Prod.fst) hresult
  rw [map_map, map_map] at hout
  exact ⟨n, result, hn, hends, hout⟩

theorem EndsWithin.map_state (h : r.EndsWithin b l rest) :
    ∃ n result, n ≤ b ∧ r.Ends n l result ∧
      result.map (·.state) = (feed r.settle l.state rest).map (·.2) := by
  obtain ⟨n, result, hn, hends, hresult⟩ := h
  have hstate := congrArg (Except.map Prod.snd) hresult
  rw [map_map, map_map] at hstate
  exact ⟨n, result, hn, hends, hstate⟩

theorem endsWithin_nil (hrest : l.items.drop l.place = []) : r.EndsWithin 0 l [] := by
  have hplace : l.items[l.place]? = none := by
    rw [List.getElem?_eq_none_iff]
    exact List.drop_eq_nil_iff.mp hrest
  have hpass : r.pass l = none := by rw [pass, hplace, Option.map_none]
  refine ⟨0, .ok l, Nat.le_refl 0, .finished hpass, ?_⟩
  simp [Except.map, pure, Except.pure]

theorem endsWithin_of_error {e : ε} (hrest : l.items.drop l.place = x :: rest)
    (hturn : r.turn l.state x = .error e) : r.EndsWithin 1 l (x :: rest) := by
  have hpass := pass_of_drop (r := r) hrest
  rw [hturn] at hpass
  refine ⟨1, .error e, Nat.le_refl 1, .failed hpass, ?_⟩
  rw [feed_cons_of_error rest (settle_of_error hturn)]
  rfl

theorem endsWithin_of_taken (hrest : l.items.drop l.place = x :: rest)
    (hturn : r.turn l.state x = .ok (.taken out after))
    (h : r.EndsWithin b (l.behind (.taken out after)) rest) :
    r.EndsWithin (b + 1) l (x :: rest) := by
  have hpass := pass_of_drop (r := r) hrest
  rw [hturn] at hpass
  obtain ⟨n, result, hn, hends, hresult⟩ := h
  refine ⟨n + 1, result, Nat.succ_le_succ hn, .passed hpass hends, ?_⟩
  rw [hresult, feed_cons_of_ok rest (settle_of_taken hturn)]
  change (feed r.settle after rest).map _ = _
  cases feed r.settle after rest with
  | error e => rfl
  | ok p => exact congrArg (fun o => Except.ok (o, p.2)) (List.append_assoc l.out out p.1)

theorem endsWithin_of_again (hrest : l.items.drop l.place = x :: rest)
    (hturn : r.turn l.state x = .ok (.again after item))
    (h : r.EndsWithin b (l.behind (.again after item)) (item :: rest)) :
    r.EndsWithin (b + 1) l (x :: rest) := by
  have hpass := pass_of_drop (r := r) hrest
  rw [hturn] at hpass
  obtain ⟨n, result, hn, hends, hresult⟩ := h
  refine ⟨n + 1, result, Nat.succ_le_succ hn, .passed hpass hends, ?_⟩
  rw [hresult, feed_cons, feed_cons, settle_of_again hturn]
  rfl

/-- One item takes a pass more than its rank says. -/
theorem endsWithin_cons
    (hbehind : ∀ m : Loop σ α β, m.items.drop m.place = rest → r.EndsWithin b m rest)
    (hrest : l.items.drop l.place = x :: rest) :
    r.EndsWithin (r.rank l.state x + 1 + b) l (x :: rest) := by
  -- By induction on the rank of what stands in the place, as the item itself may be replaced.
  induction hj : r.rank l.state x using Nat.strongRecOn generalizing l x with
  | ind j ih =>
    cases hturn : r.turn l.state x with
    | error e => exact (endsWithin_of_error hrest hturn).mono (by omega)
    | ok turn =>
      cases turn with
      | taken out after =>
        have hends := hbehind _ (Loop.drop_behind_taken out after hrest)
        exact (endsWithin_of_taken hrest hturn hends).mono (by omega)
      | again after item =>
        have hlt := r.rank_lt hturn
        have hdrop := Loop.drop_behind_again after item hrest
        have hends := ih (r.rank after item) (by omega) hdrop rfl
        exact (endsWithin_of_again hrest hturn hends).mono (by omega)

end EndsWithin

/-- Every loop ends. -/
theorem endsWithin (hrank : ∀ s x, r.rank s x ≤ k) {rest : List α}
    (hrest : l.items.drop l.place = rest) : r.EndsWithin ((k + 1) * rest.length) l rest := by
  -- A pass changes the state and may replace an item, so the induction is over all loops.
  induction rest generalizing l with
  | nil => exact endsWithin_nil hrest
  | cons x rest ih =>
    have hx := hrank l.state x
    refine (endsWithin_cons (fun m hm => ih hm) hrest).mono ?_
    rw [List.length_cons, Nat.mul_add, Nat.mul_one]
    omega

/-! ### Passes in one place -/

theorem Leads.place_le (h : r.Leads n l m) : l.place ≤ m.place := by
  induction h with
  | refl => exact Nat.le_refl _
  | tail _ hpass ih =>
    obtain ⟨x, turn, -, -, rfl⟩ := exists_of_pass hpass
    cases turn with
    | taken out after => exact Nat.le_succ_of_le ih
    | again after item => exact ih

/-- While a loop stays in one place, each pass lowers the rank of what stands there. -/
theorem Leads.add_rank_le (h : r.Leads n l m) (hplace : m.place = l.place) :
    n = 0 ∨ ∃ x y, l.items[l.place]? = some x ∧ m.items[m.place]? = some y ∧
      n + r.rank m.state y ≤ r.rank l.state x := by
  induction h with
  | refl => exact Or.inl rfl
  | @tail n l m after hleads hpass ih =>
    obtain ⟨item, turn, hitem, hturn, rfl⟩ := exists_of_pass hpass
    have hle := hleads.place_le
    cases turn with
    | taken out after =>
      change m.place + 1 = l.place at hplace
      omega
    | again after item' =>
      have hlt := r.rank_lt hturn
      have hsame : m.place = l.place := hplace
      have hbehind : (m.behind (.again after item')).items[m.place]? = some item' :=
        List.getElem?_set_self (List.getElem?_eq_some_iff.mp hitem).1
      rcases ih hsame with rfl | ⟨x, y, hx, hy, hrank⟩
      · cases hleads
        exact Or.inr ⟨item, item', hitem, hbehind, by simp only [Loop.behind]; omega⟩
      · obtain rfl : y = item := Option.some.inj (hy.symm.trans hitem)
        exact Or.inr ⟨x, item', hx, hbehind, by simp only [Loop.behind]; omega⟩

theorem Leads.le_of_place_eq (hrank : ∀ s x, r.rank s x ≤ k) (h : r.Leads n l m)
    (hplace : m.place = l.place) : n ≤ k := by
  rcases h.add_rank_le hplace with rfl | ⟨x, y, -, -, hle⟩
  · exact Nat.zero_le k
  · have := hrank l.state x
    omega

end Rereader

end DocExamples.Transducer
