import DocExamples.Proofs.JoinedSources
import DocExamples.Proofs.ScriptBlocks
import DocExamples.Proofs.TranscriptReading

/-!
# Prompts in a row

A reader of transcripts joins the expressions of prompts without output between them into one
source.  Its statements are those of the expressions, one after the other (`parseSource_joined`), so
it mostly has the outcome and the effects of the expressions run in turn (`prompts_run_in_turn`).
What a joined source does as a whole sets it apart.  Nothing of it runs if it binds a name that
cannot be bound, it has one documentation, and its block keeps the built-in names (`Joinable`).
-/

namespace DocExamples.Script

/-! ### Documentation of joined statements -/

theorem bind_of_get? {name : String} {v : Value} {names : Names} (h : names.get? name = some v) :
    bind name v names = names := by
  induction names with
  | nil => cases h
  | cons entry rest ih =>
    obtain ⟨n, w⟩ := entry
    by_cases hn : n = name
    · have hw : w = v := by simpa [Names.get?, hn] using h
      rw [bind, if_pos hn, hw]
    · have hrest : Names.get? rest name = some v := by simpa [Names.get?, hn] using h
      rw [bind, if_neg hn, ih hrest]

/-- Documentation that is not bound anew need not be repeated. -/
theorem document_twice {xs : List Stmt} (h : documentationName ∉ boundNames xs) (text : String) :
    (do document (some text); runFrame xs; document (some text)) =
      (do document (some text); runFrame xs) := by
  refine ExceptT.ext (StateT.ext fun s => ?_)
  let first : Store := { s with names := bind documentationName (.str text) s.names }
  have hfirst : (document (some text)).run.run s = (.ok (), first) := rfl
  rw [run_bind_of_ok hfirst, run_bind_of_ok hfirst]
  have hkept := bindsOnly_runAll first.names.builtins xs first documentationName h
  rw [← run_runFrame] at hkept
  rcases hrun : (runFrame xs).run.run first with ⟨result, after⟩
  rw [hrun] at hkept
  cases result with
  | error t => rw [run_bind_of_error hrun]
  | ok a =>
    have hbound : after.names.get? documentationName = some (.str text) :=
      hkept.trans (get?_bind_self _ _ _)
    have hagain : (document (some text)).run.run after =
        (.ok (), { after with names := bind documentationName (.str text) after.names }) := rfl
    rw [run_bind_of_ok hrun, hagain, bind_of_get? hbound]

theorem documented_append {xs : List Stmt} {text : String} (h : documented xs = some text)
    (ys : List Stmt) : documented (xs ++ ys) = some text := by
  match xs with
  | [] => cases h
  | [s] =>
    cases s with
    | expr e => cases e <;> cases h
    | _ => cases h
  | s :: t :: rest =>
    rw [← h]
    cases s with
    | expr e => cases e <;> rfl
    | _ => rfl

/-- Statements that are documented only together with others do nothing: they are a text, or none at
all. -/
theorem runFrame_of_documented_append {xs ys : List Stmt} {text : String}
    (hnone : documented xs = none) (hsome : documented (xs ++ ys) = some text) :
    runFrame xs = pure () := by
  have hcases : xs = [] ∨ ∃ text, xs = [.expr (.str text)] := by
    match xs with
    | [] => exact .inl rfl
    | s :: rest =>
      cases s with
      | expr e =>
        cases e with
        | str text =>
          cases rest with
          | nil => exact .inr ⟨text, rfl⟩
          | cons t more => cases hnone
        | _ => cases hsome
      | _ => cases hsome
  rcases hcases with rfl | ⟨text, rfl⟩
  · rfl
  · rfl

/-! ### Sources that can be joined -/

/-- Statements can be put in front of others: what the source does as a whole is then no different
from what the parts do. -/
structure Joinable (front rest : List Stmt) : Prop where
  /-- A name that cannot be bound stops everything, so it must stop the front part too. -/
  debug : debugName ∈ boundNames rest → debugName ∈ boundNames front
  /-- Built-in names that are bound anew meet only a last expression, which looks for them again. -/
  builtins : builtinsName ∈ boundNames front → endsInExpression front = false ∧ block rest = []
  /-- The documentation is that of the rest or, without it, that of the front part. -/
  documentation : documented (front ++ rest) = (documented rest).or (documented front)
  /-- The documentation of the rest is not lost in the front part. -/
  kept : documentationName ∈ boundNames front → documented rest = none

namespace Joinable

variable {front rest : List Stmt}

/-- Both parts run behind the documentation of the whole. -/
theorem document_front (h : Joinable front rest) :
    (do document (documented front); runFrame front; document (documented rest)) =
      (do document (documented (front ++ rest)); runFrame front) := by
  have hwhole := h.documentation
  cases hrest : documented rest with
  | none =>
    rw [hrest, Option.none_or] at hwhole
    simp [hwhole, document]
  | some text =>
    rw [hrest] at hwhole
    have hkept : documentationName ∉ boundNames front := fun hbound => by
      rw [h.kept hbound] at hrest
      cases hrest
    cases hfront : documented front with
    | none =>
      rw [runFrame_of_documented_append hfront hwhole, hwhole]
      simp [document]
    | some text' =>
      rw [documented_append hfront rest] at hwhole
      cases hwhole
      rw [documented_append hfront rest]
      exact document_twice hkept text

/-- The block of the whole does what the blocks of the parts do. -/
theorem runFrame_block (h : Joinable front rest) :
    runFrame (front ++ block rest) = (do runFrame front; runFrame (block rest)) := by
  by_cases hbound : builtinsName ∈ boundNames front
  · rw [(h.builtins hbound).2, List.append_nil]
    simp [runFrame_nil]
  · exact runFrame_append hbound _

theorem ends (h : Joinable front rest) :
    builtinsName ∉ boundNames front ∨ endsInExpression front = false := by
  by_cases hbound : builtinsName ∈ boundNames front
  · exact .inr (h.builtins hbound).1
  · exact .inl hbound

/-- The parts run in turn. -/
theorem run_whole (h : Joinable front rest) {α : Type} (next : Eval Store Thrown α) :
    (do document (documented (front ++ rest)); runFrame (front ++ block rest); next) = (do
      document (documented front)
      runFrame (block front)
      let _ ← ending front
      document (documented rest)
      runFrame (block rest)
      next) := by
  have hbehind : ∀ {β : Type} (behind : Eval Store Thrown β),
      (do document (documented front); runFrame front; document (documented rest); behind) =
        (do document (documented (front ++ rest)); runFrame front; behind) := fun behind => by
    simpa using congrArg (· >>= fun _ => behind) h.document_front
  simp only [h.runFrame_block, bind_assoc, runFrame_ending_bind h.ends, hbehind]

end Joinable

/-! ### Joined sources -/

theorem checkTargets_append (place : Place) (line : Int) (p q : List PlacedStmt) :
    checkTargets place line (p ++ q) = (do
      checkTargets place line p
      checkTargets place line q) := by
  simp only [checkTargets, List.findSome?_append]
  cases p.findSome? (·.refusal?) <;> rfl

/-- A source is refused for what its statements bind, wherever they stand. -/
theorem checkTargets_eq_ok_iff {place : Place} {line : Int} {p : List PlacedStmt} :
    checkTargets place line p = .ok () ↔ debugName ∉ boundNames (p.map (·.stmt)) := by
  have hnone : p.findSome? (·.refusal?) = none ↔ debugName ∉ boundNames (p.map (·.stmt)) := by
    simp [boundNames, PlacedStmt.refusal?]
  rw [← hnone]
  unfold checkTargets
  split
  · next hsome => simp [hsome]
  · next hsome => simp [hsome]

/-- From the first line on, joined statements run in turn. -/
theorem runPlaced_append (place : Place) {p q q' : List PlacedStmt} (hne : q ≠ [])
    (hstmts : q'.map (·.stmt) = q.map (·.stmt))
    (h : Joinable (p.map (·.stmt)) (q.map (·.stmt))) :
    runPlaced place 1 (p ++ q') = (do let _ ← runPlaced place 1 p; runPlaced place 1 q) := by
  have hlast : q.map (·.stmt) ≠ [] := by simpa using hne
  simp only [runPlaced_one, List.map_append, hstmts, block_append _ hlast, ending_append _ hlast,
    bind_assoc]
  cases hp : checkTargets place 1 p with
  | error e =>
    have hjoined : checkTargets place 1 (p ++ q') = .error e := by
      rw [checkTargets_append, hp]
      rfl
    rw [hjoined, settled_error_bind, settled_error_bind]
  | ok checked =>
    have hrest : debugName ∉ boundNames (q.map (·.stmt)) := fun hbound =>
      checkTargets_eq_ok_iff.mp hp (h.debug hbound)
    have hq : checkTargets place 1 q = .ok () := checkTargets_eq_ok_iff.mpr hrest
    have hq' : checkTargets place 1 q' = .ok () :=
      checkTargets_eq_ok_iff.mpr (by rw [hstmts]; exact hrest)
    have hjoined : checkTargets place 1 (p ++ q') = .ok () := by
      rw [checkTargets_append, hp]
      exact hq'
    simp only [hjoined, hq, settled_ok, pure_bind]
    exact h.run_whole _

theorem evaluate_of_parseSource (place : Place) {source : String} {p : List PlacedStmt}
    (h : parseSource source = .ok (.ok p)) :
    (session place).evaluate source 1 = runPlaced place 1 p := by
  change evaluate place source 1 = _
  rw [evaluate, h, settled_ok, pure_bind]

end DocExamples.Script

namespace DocExamples.Transcript

open Text Transducer Script

/-! ### Prompts in a row -/

/-- A prompt behind a prompt continues the expression, whether it opens or continues one. -/
theorem settle_prompt {r : Reading} {line plain : SourceLine} (hsource : r.source ≠ [])
    (houtput : r.output = []) (hplain : plainLine line = .ok plain)
    (hprompt : isPromptLine plain = true) :
    reader.settle r line = .ok ([], r.extend plain) := by
  have hpending : r.source.isEmpty = false := by simpa using hsource
  rw [settle_eq, hplain]
  change Except.ok ([], advance r plain) = _
  congr 2
  unfold advance
  rcases Bool.or_eq_true_iff.mp hprompt with hopening | hcontinuation
  · simp [hopening, hpending, houtput]
  · simp [hcontinuation, hpending, houtput]

theorem feed_prompts {r : Reading} {lines plain : List SourceLine} (hsource : r.source ≠ [])
    (houtput : r.output = []) (hplain : lines.mapM plainLine = .ok plain)
    (hprompts : ∀ l ∈ plain, isPromptLine l = true) :
    feed reader.settle r lines = .ok ([], plain.foldl Reading.extend r) := by
  induction lines generalizing r plain with
  | nil =>
    cases hplain
    rfl
  | cons line rest ih =>
    rw [List.mapM_cons] at hplain
    obtain ⟨first, hfirst, hplain⟩ := exists_of_bind_eq_ok hplain
    obtain ⟨more, hmore, hplain⟩ := exists_of_bind_eq_ok hplain
    cases hplain
    rw [List.forall_mem_cons] at hprompts
    have hextended : (r.extend first).source ≠ [] := List.cons_ne_nil _ _
    rw [feed_cons_of_ok rest (settle_prompt hsource houtput hfirst hprompts.1),
      ih hextended houtput hmore hprompts.2]
    rfl

theorem foldl_extend (r : Reading) (plain : List SourceLine) :
    (plain.foldl Reading.extend r).source =
        (plain.map fun l => Prompt.fragment l.text).reverse ++ r.source ∧
      (plain.foldl Reading.extend r).output = r.output := by
  induction plain generalizing r with
  | nil => exact ⟨rfl, rfl⟩
  | cons line rest ih =>
    obtain ⟨hsource, houtput⟩ := ih (r.extend line)
    refine ⟨?_, houtput⟩
    rw [List.foldl_cons, hsource, List.map_cons, List.reverse_cons, List.append_assoc]
    rfl

/-- **Expressions of prompts in a row run in turn.**  Prompts behind a prompt, without output
between them, add their expressions to its source, each behind a line feed.  Two sources that parse,
the second one with a statement in it, are joined so.  If their statements can be joined, the joined
source does from every store what the first one does, and, if nothing is thrown, what the second one
does behind it. -/
theorem prompts_run_in_turn (place : Place) :
    (∀ {r : Transcript.Reading} {lines plain : List SourceLine}, r.source ≠ [] → r.output = [] →
      lines.mapM plainLine = .ok plain → plain ≠ [] → (∀ l ∈ plain, isPromptLine l = true) →
        ∃ after, feed reader.settle r lines = .ok ([], after) ∧ after.output = [] ∧
          after.toExample.sourceText = r.toExample.sourceText ++ "\n" ++
            joinLines (plain.map fun l => Prompt.fragment l.text)) ∧
    ∀ {s t : String} {p q : List PlacedStmt}, parseSource s = .ok (.ok p) →
      parseSource t = .ok (.ok q) → q ≠ [] → Joinable (p.map (·.stmt)) (q.map (·.stmt)) →
        (session place).evaluate (s ++ "\n" ++ t) 1 =
          (session place).evaluate s 1 >>= fun _ => (session place).evaluate t 1 := by
  constructor
  · intro r lines plain hsource houtput hplain hne hprompts
    obtain ⟨hextended, hnone⟩ := foldl_extend r plain
    refine ⟨plain.foldl Reading.extend r, feed_prompts hsource houtput hplain hprompts,
      hnone.trans houtput, ?_⟩
    simp only [Reading.toExample, Example.sourceText, hextended, joinLines,
      List.reverse_append, List.reverse_reverse]
    exact String.intercalate_append_of_ne_nil (by simpa using hsource) (by simpa using hne)
  · intro s t p q hs ht hne hjoin
    obtain ⟨q', hq', hstmts⟩ := parseSource_joined hs ht hne
    rw [evaluate_of_parseSource place hq', evaluate_of_parseSource place hs,
      evaluate_of_parseSource place ht, runPlaced_append place hne hstmts hjoin]

/-- The reader behind the prompts of a documented list. -/
def behindList : Transcript.Reading where
  source := ["xs = [1]", "'Numbers.'"]
  prompts := ["iex> xs = [1]", "iex> 'Numbers.'"]
  isFresh := false
  groups := [⟨1, []⟩]

/-- What a computation comes to from a store without names: its outcome, and the names and objects
that it leaves. -/
def fromNothing (m : Eval Store Thrown Value) : Except Thrown Value × Names × Heap :=
  let (result, after) := m.run.run {}
  (result, after.names, after.heap)

/-- The second expression changes the list that the first one bound, and then fails. -/
theorem prompts_run_in_turn_sample :
    (∃ after, feed reader.settle behindList
          [⟨"iex(2)> xs += [2]", 3⟩, ⟨"...(2)> xs[2]", 4⟩] = .ok ([], after) ∧
        after.output = [] ∧
        after.toExample.sourceText = "'Numbers.'\nxs = [1]\nxs += [2]\nxs[2]") ∧
      fromNothing ((session {}).evaluate "'Numbers.'\nxs = [1]\nxs += [2]\nxs[2]" 1) =
        (.error (.raised (.builtin "IndexError" "list index out of range")),
          [("__doc__", .str "Numbers."), ("xs", .object 0)],
          ⟨#[.list [.int 1, .int 2], .list [.int 2]]⟩) := by
  obtain ⟨hread, hrun⟩ := prompts_run_in_turn {}
  constructor
  · have hplain : [⟨"iex(2)> xs += [2]", 3⟩, ⟨"...(2)> xs[2]", 4⟩].mapM plainLine =
        .ok [⟨"iex> xs += [2]", 3⟩, ⟨"...> xs[2]", 4⟩] := by decide +kernel
    exact hread (by decide) rfl hplain (by decide) (by decide)
  · have hsource : "'Numbers.'\nxs = [1]\nxs += [2]\nxs[2]" =
        "'Numbers.'\nxs = [1]" ++ "\n" ++ "xs += [2]\nxs[2]" := rfl
    rw [hsource, hrun rfl rfl (List.cons_ne_nil _ _) ⟨by decide, by decide, rfl, by decide⟩]
    decide +kernel

/-- Pairs of expressions that cannot be joined: for the name that is bound, for the text in front,
and for the built-in names. -/
def apart : List (String × String) :=
  [("x = 1", "__debug__ = 1"), ("'hello'", "x = 1"), ("__builtins__ = \x7b\x7d", "len([])\n3")]

/-- Two expressions in turn. -/
def inTurn (s t : String) : Eval Store Thrown Value := do
  let _ ← (session {}).evaluate s 1
  (session {}).evaluate t 1

/-- Joined, such pairs come to something else than in turn. -/
theorem joined_prompts_differ :
    (∀ pair ∈ apart, ∃ p q, parseSource pair.1 = .ok (.ok p) ∧
        parseSource pair.2 = .ok (.ok q) ∧ q ≠ []) ∧
      (apart.map fun (s, t) => fromNothing ((session {}).evaluate (s ++ "\n" ++ t) 1)) =
        [(.error (.raised (.builtin "SyntaxError"
            "cannot assign to __debug__ (<doctest>, line 2)")), [], {}),
          (.ok (.int 1), [("__doc__", .str "hello"), ("x", .int 1)], {}),
          (.ok (.int 3), [("__builtins__", .object 0)], ⟨#[.dict [], .list []]⟩)] ∧
      (apart.map fun (s, t) => fromNothing (inTurn s t)) =
        [(.error (.raised (.builtin "SyntaxError"
            "cannot assign to __debug__ (<doctest>, line 1)")), [("x", .int 1)], {}),
          (.ok (.int 1), [("x", .int 1)], {}),
          (.error (.raised (.builtin "NameError" "name 'len' is not defined")),
            [("__builtins__", .object 0)], ⟨#[.dict []]⟩)] := by
  refine ⟨?_, by decide +kernel, by decide +kernel⟩
  intro pair hpair
  simp only [apart, List.mem_cons, List.not_mem_nil, or_false] at hpair
  rcases hpair with rfl | rfl | rfl <;> exact ⟨_, _, rfl, rfl, List.cons_ne_nil _ _⟩

end DocExamples.Transcript
