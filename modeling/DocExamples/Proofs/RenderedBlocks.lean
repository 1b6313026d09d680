import DocExamples.Proofs.DocumentGap
import DocExamples.Proofs.Rendering

/-!
# Reading undoes writing

The lines of one block are cut by their margin (`normalize_lines`), and the transcript is scanned as
one group (`scan_texts`).  A document of many blocks is then read block by block, as two empty lines
stand behind each.
-/

namespace DocExamples.Margin

open Text Transducer Rendering

/-! ### Lines behind a margin -/

/-- The texts as lines, of which the first has the number `start`. -/
def linesFrom (start : Int) (texts : List String) : List SourceLine :=
  (number start texts).map fun x => ⟨x.1, x.2⟩

theorem linesFrom_cons (start : Int) (s : String) (texts : List String) :
    linesFrom start (s :: texts) = ⟨s, start⟩ :: linesFrom (start + 1) texts := by
  rw [linesFrom, number_cons]
  rfl

theorem linesFrom_append (start : Int) (before after : List String) :
    linesFrom start (before ++ after) =
      linesFrom start before ++ linesFrom (start + before.length) after := by
  rw [linesFrom, number_append, List.map_append]
  rfl

theorem map_text_linesFrom (start : Int) (texts : List String) :
    (linesFrom start texts).map (·.text) = texts := by
  induction texts generalizing start with
  | nil => rfl
  | cons s texts ih => rw [linesFrom_cons, List.map_cons, ih]

/-- Behind the margin the reader takes the texts as they are, and comes to the state `final`. -/
def Cuts (margin : Nat) (s : State) (texts : List String) (final : State) : Prop :=
  ∀ n, feed reader.settle s (number n (texts.map (indent margin))) = .ok (linesFrom n texts, final)

section Cuts

variable {margin : Nat} {s after final : State} {text : String} {texts : List String}

theorem Cuts.nil : Cuts margin s [] s := fun _ => rfl

theorem Cuts.cons (hstep : ∀ n, reader.settle s (indent margin text, n) = .ok ([⟨text, n⟩], after))
    (h : Cuts margin after texts final) : Cuts margin s (text :: texts) final := by
  intro n
  rw [List.map_cons, number_cons, feed_cons_of_ok _ (hstep n), h, linesFrom_cons]
  rfl

theorem Cuts.append {more : List String} (hfirst : Cuts margin s texts after)
    (h : Cuts margin after more final) : Cuts margin s (texts ++ more) final := by
  intro n
  rw [List.map_append, number_append, feed_append_of_ok _ (hfirst n), h, linesFrom_append,
    List.length_map]
  rfl

/-- The reader can go on with a block of this margin. -/
def State.Stands (margin : Nat) (s : State) : Prop :=
  s = .prose ∨ s = .afterPrompt margin ∨ s = .output margin

theorem cutExactly_indent (n : Int) (h : trimStart text = text) :
    cutExactly margin n (indent margin text) = .ok text := by
  rw [cutExactly_of_eq, dropChars_indent]
  rw [trimStart_indent, dropChars_indent]
  exact Or.inr h

theorem settle_entry {e : Entry} (n : Int) :
    reader.settle (.afterPrompt margin) (indent margin e.text, n) =
      .ok ([⟨e.text, n⟩], .afterPrompt margin) := by
  rw [settle_afterPrompt, cutExactly_indent n (trimStart_of_isPrompt e.isPrompt_text)]
  simp only [Except.map, e.isPrompt_text, if_true]

/-- The first prompt of a block sets the margin, and the others keep to it. -/
theorem settle_opening {e : Entry} (hs : s.Stands margin) (he : e.continues = false) (n : Int) :
    reader.settle s (indent margin e.text, n) = .ok ([⟨e.text, n⟩], .afterPrompt margin) := by
  have htrim := trimStart_of_isPrompt e.isPrompt_text
  have hopens := e.opens_text he
  have hline : Prompt.opens (trimStart (indent margin e.text)) = true := by
    rw [trimStart_indent, htrim, hopens]
  rcases hs with rfl | rfl | rfl
  · rw [settle_prose_of_opens n hline, trimStart_indent, htrim, leadingBlanks_indent,
      leadingBlanks_of_trimStart htrim, Nat.add_zero]
  · exact settle_entry n
  · have hne : dropChars margin (indent margin e.text) ≠ "" := by
      rw [dropChars_indent]
      exact ne_empty_of_opens hopens
    rw [settle_output_of_opens margin n hne hline, cutExactly_indent n htrim]
    rfl

theorem cuts_entries (entries : List Entry) :
    Cuts margin (.afterPrompt margin) (entries.map (·.text)) (.afterPrompt margin) := by
  induction entries with
  | nil => exact .nil
  | cons e entries ih => exact .cons settle_entry ih

theorem cuts_output (h : ∀ s ∈ texts, IsOutput s) :
    Cuts margin (.output margin) texts (.output margin) := by
  induction texts with
  | nil => exact .nil
  | cons t texts ih =>
    have ht := h t (by simp)
    refine .cons (fun n => ?_) (ih fun s hs => h s (by simp [hs]))
    rw [settle_output_of_text, dropChars_indent]
    · rw [dropChars_indent]
      exact ht.nonempty
    · rw [trimStart_indent]
      exact ht.noOpening

/-- Output behind a prompt starts at the margin. -/
theorem cuts_answer (margin : Nat) (h : ∀ s ∈ texts, IsOutput s)
    (hstart : ∀ s ∈ texts.head?, trimStart s = s) :
    ∃ final, final.Stands margin ∧ Cuts margin (.afterPrompt margin) texts final := by
  cases texts with
  | nil => exact ⟨_, Or.inr (Or.inl rfl), .nil⟩
  | cons t texts =>
    refine ⟨.output margin, Or.inr (Or.inr rfl), .cons (fun n => ?_) (cuts_output ?_)⟩
    · rw [settle_afterPrompt, cutExactly_indent n (hstart t rfl)]
      simp only [Except.map, (h t (by simp)).isPrompt_eq_false, Bool.false_eq_true, if_false]
    · exact fun s hs => h s (by simp [hs])

theorem cuts_exchange {x : Exchange} (hs : s.Stands margin) (hx : x.WellFormed) :
    ∃ final, final.Stands margin ∧ Cuts margin s x.texts final := by
  obtain ⟨final, hfinal, hanswer⟩ := cuts_answer margin hx.output hx.start
  refine ⟨final, hfinal, ?_⟩
  exact .cons (settle_opening hs rfl) ((cuts_entries x.more).append hanswer)

theorem cuts_exchanges {xs : List Exchange} (hs : s.Stands margin) (h : ∀ x ∈ xs, x.WellFormed) :
    ∃ final, Cuts margin s (xs.flatMap (·.texts)) final := by
  induction xs generalizing s with
  | nil => exact ⟨s, .nil⟩
  | cons x xs ih =>
    obtain ⟨after, hafter, hcut⟩ := cuts_exchange hs (h x (by simp))
    obtain ⟨final, hmore⟩ := ih hafter fun y hy => h y (by simp [hy])
    exact ⟨final, hcut.append hmore⟩

end Cuts

/-! ### Prose -/

theorem feed_prose {lines : List String} (n : Int)
    (h : ∀ s ∈ lines, Prompt.opens (trimStart s) = false) :
    feed reader.settle .prose (number n lines) = .ok ([], .prose) := by
  induction lines generalizing n with
  | nil => rfl
  | cons line lines ih =>
    rw [number_cons, feed_cons_of_ok _ (settle_prose_of_text n (h line (by simp))),
      ih (n + 1) fun s hs => h s (by simp [hs])]
    rfl

/-- The lines of a block lose their margin, and the prose in front of them is left out. -/
theorem normalize_lines {b : Block} (h : b.WellFormed) (start : Int) :
    normalize b.lines start = .ok (linesFrom (start + b.prose.length) b.texts) := by
  have hstands : State.prose.Stands b.margin := Or.inl rfl
  obtain ⟨final, hcut⟩ := cuts_exchanges hstands h.exchanges
  rw [normalize_eq_feed, Block.lines, number_append,
    feed_append_of_ok _ (feed_prose start fun s hs => (h.prose s hs).2), Block.texts, hcut]
  rfl

end DocExamples.Margin

namespace DocExamples.Rendering

open Text Transcript

/-! ### One exchange is one example -/

/-- The texts of an exchange behind plain prompts. -/
def Exchange.plainTexts (x : Exchange) : List String := x.entries.map (·.plain) ++ x.output

theorem Exchange.unnumbered_texts {x : Exchange} (h : x.WellFormed) :
    x.texts.map (fun s => (unnumbered ⟨s, 0⟩).text) = x.plainTexts := by
  have hentries : x.entries.map (fun e => (unnumbered ⟨e.text, 0⟩).text) =
      x.entries.map (·.plain) := by
    refine List.map_congr_left fun e he => ?_
    rw [Entry.unnumbered_text (h.entries e he)]
  have houtput : x.output.map (fun s => (unnumbered ⟨s, 0⟩).text) = x.output.map id := by
    refine List.map_congr_left fun s hs => ?_
    have hplain : unnumbered ⟨s, 0⟩ = ⟨s, 0⟩ :=
      unnumbered_of_plain (h.output s hs).isNumbered_eq_false
    rw [hplain, id]
  rw [texts, plainTexts, List.map_append, List.map_map, houtput, List.map_id]
  exact congrArg (· ++ x.output) hentries

theorem Exchange.closesNumber_texts {x : Exchange} (h : x.WellFormed) :
    ∀ s ∈ x.texts, Prompt.isNumbered s = true → ClosesNumber s := by
  intro s hs hnumbered
  rcases List.mem_append.mp hs with hs | hs
  · obtain ⟨e, he, rfl⟩ := List.mem_map.mp hs
    exact Entry.closesNumber_text (h.entries e he) hnumbered
  · rw [(h.output s hs).isNumbered_eq_false] at hnumbered
    cases hnumbered

theorem Exchange.isPromptLine_of_mem {x : Exchange} {s : String}
    (hs : s ∈ x.entries.map (·.plain)) (n : Int) : isPromptLine ⟨s, n⟩ = true := by
  obtain ⟨e, -, rfl⟩ := List.mem_map.mp hs
  exact e.isPromptLine_plain n

theorem exampleOf_eq {x : Exchange} (hx : x.WellFormed) {lines : List SourceLine}
    (h : lines.map (·.text) = x.plainTexts) : exampleOf lines = x.toExample := by
  have hkind : ∀ keep : SourceLine → Bool, (∀ s n, keep ⟨s, n⟩ = keep ⟨s, 0⟩) →
      (lines.filter keep).map (·.text) = x.plainTexts.filter fun s => keep ⟨s, 0⟩ := by
    intro keep hkeep
    rw [← h, List.filter_map]
    congr 2
    funext line
    exact hkeep line.text line.number
  have hprompts : x.plainTexts.filter (fun s => isPromptLine ⟨s, 0⟩) = x.entries.map (·.plain) := by
    rw [Exchange.plainTexts, List.filter_append,
      List.filter_eq_self.mpr fun s hs => Exchange.isPromptLine_of_mem hs 0,
      List.filter_eq_nil_iff.mpr fun s hs => by simp [(hx.output s hs).isPromptLine_eq_false],
      List.append_nil]
  have houtput : x.plainTexts.filter (fun s => !isPromptLine ⟨s, 0⟩) = x.output := by
    rw [Exchange.plainTexts, List.filter_append,
      List.filter_eq_nil_iff.mpr fun s hs => by simp [Exchange.isPromptLine_of_mem hs],
      List.filter_eq_self.mpr fun s hs => by simp [(hx.output s hs).isPromptLine_eq_false],
      List.nil_append]
  have hfragments : (x.entries.map (·.plain)).map Prompt.fragment = x.entries.map (·.source) := by
    rw [List.map_map]
    exact List.map_congr_left fun e _ => e.fragment_plain
  simp only [exampleOf]
  rw [hkind isPromptLine fun _ _ => rfl, hkind (!isPromptLine ·) fun _ _ => rfl, hprompts, houtput,
    hfragments]
  rfl

/-! ### One block is one group -/

theorem exists_cut (xs : List Exchange) {lines : List SourceLine}
    (h : lines.map (·.text) = xs.flatMap (·.plainTexts)) :
    ∃ examples : List (List SourceLine), examples.flatten = lines ∧
      examples.map (·.map (·.text)) = xs.map (·.plainTexts) := by
  induction xs generalizing lines with
  | nil => exact ⟨[], (List.map_eq_nil_iff.mp h).symm, rfl⟩
  | cons x xs ih =>
    rw [List.flatMap_cons] at h
    obtain ⟨first, rest, rfl, hfirst, hrest⟩ := List.map_eq_append_iff.mp h
    obtain ⟨examples, rfl, hexamples⟩ := ih hrest
    exact ⟨first :: examples, rfl, by rw [List.map_cons, hfirst, hexamples, List.map_cons]⟩

theorem isCut_of_texts {xs : List Exchange} (hxs : ∀ x ∈ xs, x.WellFormed)
    (hanswered : ∀ x ∈ xs.dropLast, x.output ≠ []) {examples : List (List SourceLine)}
    (h : examples.map (·.map (·.text)) = xs.map (·.plainTexts)) : IsCut examples := by
  have hexample : ∀ lines ∈ examples, ∃ x ∈ xs, x.plainTexts = lines.map (·.text) := by
    intro lines hlines
    exact List.mem_map.mp (h ▸ List.mem_map.mpr ⟨lines, hlines, rfl⟩)
  refine ⟨?_, ?_, ?_⟩
  · intro lines hlines
    obtain ⟨x, -, htexts⟩ := hexample lines hlines
    obtain ⟨first, rest, rfl, hfirst, -⟩ := List.map_eq_cons_iff.mp htexts.symm
    refine ⟨first, rest, rfl, ?_⟩
    rw [hfirst, Entry.isOpening_plain]
    rfl
  · intro lines hlines
    obtain ⟨x, hx, htexts⟩ := hexample lines hlines
    have houtput := (hxs x hx).output
    -- All prompts of an exchange stand in front of its output.
    have hordered : x.plainTexts.Pairwise fun s t =>
        isPromptLine ⟨s, 0⟩ = false → isOpening t = false := by
      refine List.pairwise_append.mpr ⟨?_, ?_, ?_⟩
      · refine List.pairwise_of_forall_mem_list fun s hs t _ hno => ?_
        rw [Exchange.isPromptLine_of_mem hs] at hno
        cases hno
      · refine List.pairwise_of_forall_mem_list fun s _ t ht _ => ?_
        exact (houtput t ht).isOpening_eq_false
      · intro s _ t ht _
        exact (houtput t ht).isOpening_eq_false
    rw [htexts] at hordered
    exact List.pairwise_map.mp hordered
  · intro lines hlines
    have hlast := congrArg List.dropLast h
    rw [← List.map_dropLast, ← List.map_dropLast] at hlast
    obtain ⟨x, hx, htexts⟩ := List.mem_map.mp (hlast ▸ List.mem_map.mpr ⟨lines, hlines, rfl⟩)
    obtain ⟨s, hs⟩ := List.exists_mem_of_ne_nil _ (hanswered x hx)
    have hmem : s ∈ lines.map (·.text) := htexts ▸ List.mem_append_right _ hs
    obtain ⟨line, hline, rfl⟩ := List.mem_map.mp hmem
    have hno := ((hxs x ((List.dropLast_sublist xs).subset hx)).output _ hs).isPromptLine_eq_false
      line.number
    exact List.any_eq_true.mpr ⟨line, hline, by rw [hno]; rfl⟩

theorem map_exampleOf {xs : List Exchange} (hxs : ∀ x ∈ xs, x.WellFormed)
    {examples : List (List SourceLine)}
    (h : examples.map (·.map (·.text)) = xs.map (·.plainTexts)) :
    examples.map exampleOf = xs.map (·.toExample) := by
  induction xs generalizing examples with
  | nil => rw [List.map_eq_nil_iff.mp h, List.map_nil, List.map_nil]
  | cons x xs ih =>
    obtain ⟨lines, more, rfl, hlines, hmore⟩ := List.map_eq_cons_iff.mp h
    rw [List.map_cons, List.map_cons, exampleOf_eq (hxs x (by simp)) hlines,
      ih (fun y hy => hxs y (by simp [hy])) hmore]

theorem isTerminator_of_mem {x : Exchange} (hx : x.WellFormed) {s : String}
    (hs : s ∈ x.plainTexts) : isTerminator s = false := by
  rcases List.mem_append.mp hs with hs | hs
  · exact not_terminator_of_isPromptLine (x.isPromptLine_of_mem hs 0)
  · exact (hx.output s hs).isTerminator_eq_false

theorem groupsOf_of_texts (identifier : Identifier) {b : Block} (hb : b.WellFormed)
    {first : SourceLine} {rest : List SourceLine}
    (h : (first :: rest).map (·.text) = b.exchanges.flatMap (·.plainTexts)) :
    groupsOf identifier (first :: rest) =
      [⟨first.number, identifier, b.exchanges.map (·.toExample)⟩] := by
  have hopening : isOpening first.text = true := by
    have hfirst : first.text = Entry.plain ⟨false, b.first.number, b.first.source⟩ :=
      (List.cons_eq_cons.mp h).1
    rw [hfirst, Entry.isOpening_plain]
    rfl
  have hsegments : segments (first :: rest) = [first :: rest] := by
    refine List.splitOnP_eq_singleton fun line hline => ?_
    have hmem : line.text ∈ b.exchanges.flatMap (·.plainTexts) :=
      h ▸ List.mem_map.mpr ⟨line, hline, rfl⟩
    obtain ⟨x, hx, hs⟩ := List.mem_flatMap.mp hmem
    exact isTerminator_of_mem (hb.exchanges x hx) hs
  obtain ⟨examples, hflatten, hexamples⟩ := exists_cut b.exchanges h
  have hcut : cutExamples [first] rest = examples :=
    (cutExamples_eq_iff rest examples hopening).mpr
      ⟨isCut_of_texts hb.exchanges hb.answered hexamples, hflatten⟩
  simp [groupsOf, hsegments, groupOf, hopening, hcut, map_exampleOf hb.exchanges hexamples]

/-- The texts of a block are scanned as its group. -/
theorem scan_texts (identifier : Identifier) {b : Block} (hb : b.WellFormed) (n : Int) :
    scan identifier (Margin.linesFrom n b.texts) =
      .ok [⟨n, identifier, b.exchanges.map (·.toExample)⟩] := by
  have hclosed : ∀ line ∈ Margin.linesFrom n b.texts,
      Prompt.isNumbered line.text = true → ClosesNumber line.text := by
    intro line hline
    have hmem : line.text ∈ b.texts :=
      Margin.map_text_linesFrom n b.texts ▸ List.mem_map.mpr ⟨line, hline, rfl⟩
    obtain ⟨x, hx, hs⟩ := List.mem_flatMap.mp hmem
    exact Exchange.closesNumber_texts (hb.exchanges x hx) _ hs
  -- What a line is read as depends on its text alone, and so the lines can be cut by their texts.
  have htexts : ((Margin.linesFrom n b.texts).map unnumbered).map (·.text) =
      b.exchanges.flatMap (·.plainTexts) := by
    have hforget : ((Margin.linesFrom n b.texts).map unnumbered).map (·.text) =
        ((Margin.linesFrom n b.texts).map (·.text)).map fun s => (unnumbered ⟨s, 0⟩).text := by
      rw [List.map_map, List.map_map]
      rfl
    rw [hforget, Margin.map_text_linesFrom, Block.texts, List.map_flatMap]
    exact List.flatMap_congr fun x hx => Exchange.unnumbered_texts (hb.exchanges x hx)
  obtain ⟨first, rest, hlines, hfirst⟩ : ∃ first rest,
      (Margin.linesFrom n b.texts).map unnumbered = first :: rest ∧ first.number = n :=
    ⟨_, _, congrArg (·.map unnumbered) (Margin.linesFrom_cons n _ _), rfl⟩
  have hgroups : groupsOf identifier ((Margin.linesFrom n b.texts).map unnumbered) =
      [⟨n, identifier, b.exchanges.map (·.toExample)⟩] := by
    rw [hlines] at htexts ⊢
    rw [groupsOf_of_texts identifier hb htexts, hfirst]
  have hcheck : ([⟨n, identifier, b.exchanges.map (·.toExample)⟩] : List Group).forM checkGroup =
      .ok () := by
    refine forM_checkGroup fun g hg => ?_
    rw [List.mem_singleton.mp hg, List.countP_map]
    exact hb.exceptions
  rw [← hgroups] at hcheck ⊢
  exact scan_of_ok (mapM_plainLine hclosed) hcheck

/-! ### Documents -/

theorem read_blanks (identifier : Identifier) {lines : List String} (h : ∀ s ∈ lines, s = "")
    (start : Int) : Margin.normalize lines start >>= scan identifier = .ok [] := by
  have hprose : ∀ s ∈ lines, Prompt.opens (trimStart s) = false := by
    intro s hs
    rw [h s hs]
    rfl
  rw [Margin.normalize_eq_feed, Margin.feed_prose start hprose]
  rfl

/-- Every block is read on its own, as a gap stands behind it. -/
theorem read_documentOf (identifier : Identifier) {blocks : List Block}
    (h : ∀ b ∈ blocks, b.WellFormed) {rest : List String} (hrest : ∀ s ∈ rest, s = "")
    (start : Int) :
    Margin.normalize (documentOf blocks ++ rest) start >>= scan identifier =
      .ok (groupsFrom identifier start blocks) := by
  induction blocks generalizing start with
  | nil => exact read_blanks identifier hrest start
  | cons b blocks ih =>
    have hb := h b (by simp)
    have hfirst : Margin.normalize b.lines start >>= scan identifier =
        .ok [⟨start + b.prose.length, identifier, b.exchanges.map (·.toExample)⟩] := by
      rw [Margin.normalize_lines hb]
      exact scan_texts identifier hb _
    have hmore := ih (fun c hc => h c (by simp [hc])) (start + b.lines.length + 2)
    have hlines : documentOf (b :: blocks) ++ rest =
        b.lines ++ (["", ""] ++ (documentOf blocks ++ rest)) := by
      simp [documentOf]
    rw [hlines]
    exact ((joins_gap identifier b.lines (documentOf blocks ++ rest) start).1 _).mpr
      ⟨_, _, hfirst, hmore, rfl⟩

theorem isLine_documentOf {blocks : List Block} (h : ∀ b ∈ blocks, b.WellFormed) :
    ∀ s ∈ documentOf blocks, IsLine s := by
  intro s hs
  obtain ⟨b, hb, hs⟩ := List.mem_flatMap.mp hs
  have hb := h b hb
  rcases List.mem_append.mp hs with hs | hs
  · rcases List.mem_append.mp hs with hs | hs
    · exact (hb.prose s hs).1
    · obtain ⟨t, ht, rfl⟩ := List.mem_map.mp hs
      obtain ⟨x, hx, ht⟩ := List.mem_flatMap.mp ht
      apply isLine_indent
      rcases List.mem_append.mp ht with ht | ht
      · obtain ⟨e, he, rfl⟩ := List.mem_map.mp ht
        exact Entry.isLine_text ((hb.exchanges x hx).entries e he)
      · exact ((hb.exchanges x hx).output t ht).line
  · have : s = "" := by simpa using hs
    rw [this]
    decide

/-- **Reading undoes writing.**  Blocks that are written down, with line ends of either kind, are
read as one group each, with the expressions and the outputs that were written. -/
theorem extract_writeLines (identifier : Identifier) {blocks : List Block}
    (h : ∀ b ∈ blocks, b.WellFormed) (crlf : Nat → Bool) (closed : Bool) (line : Int) :
    extract identifier (writeLines crlf closed (documentOf blocks)) line =
      .ok (groupsFrom identifier (line + 1) blocks) := by
  obtain ⟨rest, hrest, hlines⟩ := documentLines_writeLines crlf closed (isLine_documentOf h)
  rw [extract, hlines]
  exact read_documentOf identifier h hrest (line + 1)

/-- Two blocks with different margins: an expression of three lines with all styles of prompts,
output with white space of its own, and an expression without output. -/
def sampleBlocks : List Block :=
  [{  prose := ["Lists.", "  iex is fun"]
      margin := 2
      first := ⟨none, "a = [", [⟨true, some "1", " 1]"⟩, ⟨false, none, "a"⟩], ["[1]", "  or so"]⟩
      more := [⟨some "12", "", [], ["** (E) x"]⟩, ⟨none, "b", [], []⟩] },
    { prose := []
      margin := 0
      first := ⟨none, "c", [], ["3"]⟩
      more := [] }]

theorem extract_sampleBlocks :
    (∀ b ∈ sampleBlocks, b.WellFormed) ∧
    extract .moduledoc (writeLines (· == 3) true (documentOf sampleBlocks)) 7 =
      .ok [⟨10, .moduledoc,
          [⟨["a = [", " 1]", "a"], "[1]\n  or so", "\niex> a = [\n...>  1]\niex> a\n[1]\n  or so"⟩,
            ⟨[""], "** (E) x", "\niex> \n** (E) x"⟩, ⟨["b"], "", "\niex> b\n"⟩]⟩,
        ⟨20, .moduledoc, [⟨["c"], "3", "\niex> c\n3"⟩]⟩] := by
  have hwritten : ∀ b ∈ sampleBlocks, b.WellFormed := by decide +kernel
  refine ⟨hwritten, ?_⟩
  rw [extract_writeLines .moduledoc hwritten (· == 3) true 7]
  decide +kernel

end DocExamples.Rendering
