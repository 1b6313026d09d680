import DocExamples.Proofs.DocumentGap
import DocExamples.Proofs.ExtractionFaults
import DocExamples.Proofs.FenceLines
import DocExamples.Proofs.Rendering

/-!
# Lines of white space

A line that holds nothing but white space looks like an empty one, but it is cut by the margin like
any other.  If nothing stands behind the margin, or the line stands outside of blocks, nothing
changes when it is emptied.  The main statement is that this is the only case, but for a block whose
prompts have opened no group (`extract_clears_iff`).
-/

namespace DocExamples.Margin

open Text Transducer

/-! ### Clearing lines -/

/-- The line stays as it is, or it holds white space only and becomes empty. -/
def Clears (line cleared : String) : Prop := cleared = line ∨ trimStart line = "" ∧ cleared = ""

/-- The line holds white space only, and some of it stands behind the margin. -/
def Visit.showsBlanks (v : Visit) : Bool :=
  decide (trimStart v.line = "") && decide (v.cut.text ≠ "")

section Clearing

variable {s : State} {line : String}

theorem settle_clear (hs : s.IsBetween) (n : Int) (hblank : trimStart line = "")
    (hcut : (Visit.mk s line n).cut.text = "") :
    reader.settle s ("", n) = reader.settle s (line, n) := by
  rw [settle_blank hs hblank, settle_empty hs]
  cases s with
  | prompt margin => exact (hs margin rfl).elim
  | prose => rfl
  | afterPrompt margin | output margin =>
    have hempty : dropChars margin line = "" := hcut
    simp only [hempty, if_true]

theorem isBetween_of_settle (hs : s.IsBetween) {n : Int} {out : List SourceLine} {after : State}
    (h : reader.settle s (line, n) = .ok (out, after)) : after.IsBetween := by
  obtain ⟨cut, hreads, -⟩ := reads_of_settle hs h
  exact hreads.isBetween

/-- Nothing changes as long as the lines that show white space are kept. -/
theorem feed_clears (hs : s.IsBetween) {start : Int} {lines cleared : List String}
    (h : List.Forall₂ Clears lines cleared)
    (hkept : ∀ p ∈ (visits s (number start lines)).zip cleared,
      p.1.showsBlanks = true → p.2 = p.1.line) :
    feed reader.settle s (number start cleared) = feed reader.settle s (number start lines) := by
  induction h generalizing s start with
  | nil => rfl
  | @cons line cleared lines others hline _ ih =>
    rw [number_cons, visits, List.zip_cons_cons, List.forall_mem_cons] at hkept
    obtain ⟨hfirst, hrest⟩ := hkept
    have hstep : reader.settle s (cleared, start) = reader.settle s (line, start) := by
      rcases hline with rfl | ⟨hblank, rfl⟩
      · rfl
      · by_cases hcut : (Visit.mk s line start).cut.text = ""
        · exact settle_clear hs start hblank hcut
        · have hshows : (Visit.mk s line start).showsBlanks = true := by
            simp only [Visit.showsBlanks, hblank, hcut, decide_true, ne_eq, not_false_eq_true,
              Bool.and_self]
          have hline : "" = line := hfirst hshows
          rw [← hline]
    rw [number_cons, number_cons, feed_cons, feed_cons, hstep]
    cases hsettle : reader.settle s (line, start) with
    | error d => rfl
    | ok p =>
      rw [hsettle] at hrest
      have hmore := ih (isBetween_of_settle hs hsettle) hrest
      change (fun q => (p.1 ++ q.1, q.2)) <$> feed reader.settle p.2 _ = _
      rw [hmore]
      rfl

end Clearing

end DocExamples.Margin

namespace DocExamples.Transcript

open Text Transducer Margin Rendering

/-! ### White space in a transcript -/

section Blanks

variable {l : SourceLine} (h : trimStart l.text = "")

include h

theorem isOpening_of_blank : isOpening l.text = false := startsWith_of_blank rfl h

theorem not_isPromptLine_of_blank : isPromptLine l = false := by
  have hcontinuation : isContinuation l.text = false := startsWith_of_blank rfl h
  rw [isPromptLine, isOpening_of_blank h, hcontinuation]
  rfl

theorem not_isTerminator_of_blank (hne : l.text ≠ "") : isTerminator l.text = false := by
  have hticks : startsWith "```" l.text = false := startsWith_of_blank rfl h
  have htildes : startsWith "~~~" l.text = false := startsWith_of_blank rfl h
  simp only [isTerminator, isFence, hticks, htildes, hne, decide_false, Bool.or_false]

theorem not_isNumbered_of_blank : Prompt.isNumbered l.text = false := by
  have hopening : startsWith "iex(" l.text = false := startsWith_of_blank rfl h
  have hmore : startsWith "...(" l.text = false := startsWith_of_blank rfl h
  rw [Prompt.isNumbered, Prompt.hasNumber, hopening, hmore]
  rfl

theorem plainLine_of_blank : plainLine l = .ok l :=
  plainLine_of_plain (not_isNumbered_of_blank h)

end Blanks

/-! ### Lines behind closed groups -/

/-- If no group is open behind some lines, the lines to come are read on their own. -/
theorem groupsOf_append_of_closed (identifier : Identifier) (lines rest : List SourceLine) :
    (lines.foldl leavesOpen false = false →
      groupsOf identifier (lines ++ rest) = groupsOf identifier lines ++ groupsOf identifier rest) ∧
    ∀ start finished current, lines.foldl leavesOpen true = false →
      groupsInside identifier start finished current (lines ++ rest) =
        groupsInside identifier start finished current lines ++ groupsOf identifier rest := by
  induction lines with
  | nil =>
    refine ⟨fun _ => ?_, fun _ _ _ hopen => ?_⟩
    · rw [groupsOf_nil]
      rfl
    · cases hopen
  | cons line more ih =>
    obtain ⟨ihOutside, ihInside⟩ := ih
    refine ⟨fun hclosed => ?_, fun start finished current hclosed => ?_⟩
    · rw [List.foldl_cons] at hclosed
      cases hopening : isOpening line.text with
      | true =>
        have hline : isTerminator line.text = false :=
          not_terminator_of_isPromptLine (by rw [isPromptLine, hopening, Bool.true_or])
        rw [leavesOpen, hline, hopening] at hclosed
        rw [List.cons_append, groupsOf_cons_opening identifier _ hopening,
          groupsOf_cons_opening identifier _ hopening]
        exact ihInside _ _ _ hclosed
      | false =>
        rw [leavesOpen, hopening, Bool.or_false, Bool.and_false] at hclosed
        rw [List.cons_append, groupsOf_cons_other identifier _ hopening,
          groupsOf_cons_other identifier _ hopening]
        exact ihOutside hclosed
    · rw [List.foldl_cons] at hclosed
      cases hline : isTerminator line.text with
      | true =>
        rw [leavesOpen, hline] at hclosed
        rw [List.cons_append, groupsInside_terminator _ _ _ _ _ hline,
          groupsInside_terminator _ _ _ _ _ hline, ihOutside hclosed]
        rfl
      | false =>
        rw [leavesOpen, hline] at hclosed
        cases hnext : isOpening line.text && isAnswered current with
        | true =>
          obtain ⟨hopening, hanswered⟩ := Bool.and_eq_true_iff.mp hnext
          rw [List.cons_append, groupsInside_next _ _ _ _ _ hopening hanswered,
            groupsInside_next _ _ _ _ _ hopening hanswered]
          exact ihInside _ _ _ hclosed
        | false =>
          rw [List.cons_append, groupsInside_same _ _ _ _ _ hline hnext,
            groupsInside_same _ _ _ _ _ hline hnext]
          exact ihInside _ _ _ hclosed

/-- It does not matter then how much white space a line holds. -/
theorem scan_of_closed_blank (identifier : Identifier) {before plain rest : List SourceLine}
    {l : SourceLine} (hplain : before.mapM plainLine = .ok plain)
    (hclosed : isOpenBehind plain = false) (hblank : trimStart l.text = "") :
    scan identifier (before ++ l :: rest) = do
      let more ← rest.mapM plainLine
      (groupsOf identifier plain ++ groupsOf identifier more).forM checkGroup
      return groupsOf identifier plain ++ groupsOf identifier more := by
  rw [scan_eq, mapM_plainLine_append _ hplain, List.mapM_cons, plainLine_of_blank hblank]
  cases rest.mapM plainLine with
  | error d => rfl
  | ok more =>
    have hgroups : groupsOf identifier (plain ++ l :: more) =
        groupsOf identifier plain ++ groupsOf identifier more := by
      rw [(groupsOf_append_of_closed identifier plain (l :: more)).1 hclosed,
        groupsOf_cons_other identifier more (isOpening_of_blank hblank)]
    change ((groupsOf identifier (plain ++ l :: more)).forM checkGroup >>= fun _ => _) = _
    rw [hgroups]
    rfl

theorem scan_closed_congr (identifier : Identifier) {before plain rest : List SourceLine}
    {l k : SourceLine} (hplain : before.mapM plainLine = .ok plain)
    (hclosed : isOpenBehind plain = false) (hl : trimStart l.text = "")
    (hk : trimStart k.text = "") :
    scan identifier (before ++ l :: rest) = scan identifier (before ++ k :: rest) :=
  (scan_of_closed_blank identifier hplain hclosed hl).trans
    (scan_of_closed_blank identifier hplain hclosed hk).symm

theorem scan_append_blanks {identifier : Identifier} {lines gap : List SourceLine}
    {groups : List Group} (h : scan identifier lines = .ok groups)
    (hgap : ∀ l ∈ gap, l.text = "") : scan identifier (lines ++ gap) = .ok groups := by
  obtain ⟨hplain, rfl, hcheck⟩ := groupsOf_of_scan h
  have hall : (lines ++ gap).mapM plainLine = .ok (lines.map unnumbered ++ gap) := by
    rw [mapM_plainLine_append gap hplain, mapM_plainLine_blanks hgap]
    rfl
  have hgroups := groupsOf_append_blanks identifier (lines.map unnumbered) hgap
  rw [← hgroups] at hcheck ⊢
  exact scan_of_ok hall hcheck

/-- In an open group a line that is no prompt is an answer, and an empty line ends the group. -/
theorem answerLines_append_of_open {lines : List SourceLine} {l : SourceLine} (n : Int)
    (hopen : isOpenBehind lines = true) (hprompt : isPromptLine l = false)
    (hline : isTerminator l.text = false) :
    answerLines (lines ++ [l, ⟨"", n⟩]) = answerLines lines ++ [l] := by
  have hleaves : leavesOpen true l = true := by
    rw [leavesOpen, hline]
    rfl
  have hends : takenFrom true [⟨"", n⟩] = [] := rfl
  rw [answerLines, takenFrom_append, ← isOpenBehind, hopen, takenFrom_cons, hleaves, hends,
    List.filter_append, if_pos rfl, List.append_nil, List.filter_singleton, hprompt]
  rfl

/-! ### Results that look the same -/

/-- The lines of the group, and where it starts. -/
def outline (g : Group) : Int × List (List String × String) :=
  (g.startLine, g.examples.map fun e => (e.source, e.expected))

/-- The same groups, or defects of one kind on one line. -/
def SameOutcome : Except Defect (List Group) → Except Defect (List Group) → Prop
  | .ok groups, .ok others => groups.map outline = others.map outline
  | .error d, .error e => d.kind = e.kind ∧ d.line = e.line
  | _, _ => False

theorem SameOutcome.refl (result : Except Defect (List Group)) : SameOutcome result result := by
  cases result with
  | error d => exact ⟨rfl, rfl⟩
  | ok groups => rfl

theorem answersOf_congr {groups others : List Group}
    (h : groups.map outline = others.map outline) : answersOf groups = answersOf others := by
  have hanswers : ∀ gs : List Group, answersOf gs = (gs.map outline).flatMap fun o =>
      o.2.flatMap fun p => (Example.mk p.1 p.2 "").answers := by
    intro gs
    rw [List.flatMap_map, answersOf]
    congr 1
    funext g
    rw [outline, List.flatMap_map]
    rfl
  rw [hanswers, hanswers, h]

/-- In an open group white space is a line of an expected result, but an empty line is not. -/
theorem not_sameOutcome_of_open {identifier : Identifier} {lines : List SourceLine}
    {groups : List Group} (hscan : scan identifier lines = .ok groups)
    (hfeeds : ∀ l ∈ lines.map unnumbered, '\n' ∉ l.text.toList)
    (hopen : isOpenBehind (lines.map unnumbered) = true) {l : SourceLine}
    (hblank : trimStart l.text = "") (hne : l.text ≠ "") (hfeed : '\n' ∉ l.text.toList)
    (k n : Int) :
    ¬SameOutcome (scan identifier (lines ++ [⟨"", k⟩, ⟨"", n⟩]))
      (scan identifier (lines ++ [l, ⟨"", n⟩])) := by
  rw [scan_append_blanks hscan (by simp)]
  cases hothers : scan identifier (lines ++ [l, ⟨"", n⟩]) with
  | error d => exact fun h => h
  | ok others =>
    intro hsame
    obtain ⟨-, rfl, -⟩ := groupsOf_of_scan hscan
    obtain ⟨-, rfl, -⟩ := groupsOf_of_scan hothers
    have hplain : [l, ⟨"", n⟩].map unnumbered = [l, ⟨"", n⟩] := by
      rw [List.map_cons, unnumbered_of_plain (not_isNumbered_of_blank hblank)]
      rfl
    have hmore : ∀ m ∈ lines.map unnumbered ++ [l, ⟨"", n⟩], '\n' ∉ m.text.toList :=
      List.forall_mem_append.mpr ⟨hfeeds, List.forall_mem_cons.mpr ⟨hfeed, by simp⟩⟩
    -- The expected results have different numbers of lines.
    have hanswers := answersOf_congr hsame
    rw [List.map_append, hplain, answersOf_groupsOf hfeeds, answersOf_groupsOf hmore,
      answerLines_append_of_open n hopen (not_isPromptLine_of_blank hblank)
        (not_isTerminator_of_blank hblank hne)] at hanswers
    have hlength := congrArg List.length hanswers
    simp at hlength

theorem kind_of_scan_error {identifier : Identifier} {lines : List SourceLine} {d : Defect}
    (h : scan identifier lines = .error d) : d.kind ≠ .indentationMismatch := by
  rcases isFirst_or_forall IsUnclosed lines with ⟨l, hl⟩ | hclosed
  · rw [scan_of_unclosed hl] at h
    cases h
    simp [Defect.kind]
  · rw [scan_of_closed hclosed, map_eq_error_iff,
      forM_eq_error_iff checkGroup_eq_error_iff] at h
    obtain ⟨g, -, rfl⟩ := h
    simp [Defect.kind]

/-! ### A line between two texts -/

theorem isLine_empty : IsLine "" := isLine_of_not_mem (by simp) (by simp)

theorem documentLines_between {front blank : String} (rest : String)
    (hfront : front.toList.getLast? ≠ some '\r') (hblank : IsLine blank) :
    documentLines (front ++ "\n" ++ blank ++ "\n" ++ rest) =
      documentLines front ++ blank :: documentLines rest := by
  have hlast : (front ++ "\n" ++ blank).toList.getLast? ≠ some '\r' := by
    rw [String.toList_append, List.getLast?_append]
    have hline := hblank.2
    cases h : blank.toList.getLast? with
    | none => simp
    | some c => simpa [h] using hline
  rw [documentLines_append _ hlast, documentLines_append _ hfront, documentLines_of_isLine hblank,
    List.append_assoc, List.singleton_append]

section Between

variable {identifier : Identifier} {front blank : String} {line : Int} {s : State}
  {transcript : List SourceLine}

/-- The number of the line behind a text. -/
def numberBehind (front : String) (line : Int) : Int := line + 1 + (documentLines front).length

/-- What is read in front of a line, then the line and what is read behind it. -/
theorem extract_between (rest : String) (hfront : front.toList.getLast? ≠ some '\r')
    (hblank : IsLine blank)
    (hfeed : feed Margin.reader.settle .prose (number (line + 1) (documentLines front)) =
      .ok (transcript, s)) :
    extract identifier (front ++ "\n" ++ blank ++ "\n" ++ rest) line =
      ((feed Margin.reader.settle s
        (number (numberBehind front line) (blank :: documentLines rest))).map
          fun p => transcript ++ p.1) >>= scan identifier := by
  rw [extract, normalize_eq_feed, documentLines_between rest hfront hblank, number_append,
    feed_append_of_ok _ hfeed]
  change ((feed Margin.reader.settle s (number (numberBehind front line) _)).map _).map _ >>= _ = _
  cases feed Margin.reader.settle s
    (number (numberBehind front line) (blank :: documentLines rest)) <;> rfl

theorem extract_between_of_ok (rest : String) (hfront : front.toList.getLast? ≠ some '\r')
    (hblank : IsLine blank)
    (hfeed : feed Margin.reader.settle .prose (number (line + 1) (documentLines front)) =
      .ok (transcript, s)) {given : List SourceLine} {after : State}
    (hstep : Margin.reader.settle s (blank, numberBehind front line) = .ok (given, after)) :
    extract identifier (front ++ "\n" ++ blank ++ "\n" ++ rest) line =
      ((feed Margin.reader.settle after
        (number (numberBehind front line + 1) (documentLines rest))).map
          fun p => transcript ++ (given ++ p.1)) >>= scan identifier := by
  rw [extract_between rest hfront hblank hfeed, number_cons, feed_cons_of_ok _ hstep]
  cases feed Margin.reader.settle after
    (number (numberBehind front line + 1) (documentLines rest)) <;> rfl

/-- Behind a text that is read the rest is read from the state and the lines it leaves. -/
theorem transcript_of_extract {groups : List Group} (h : extract identifier front line = .ok groups)
    (hfeed : feed Margin.reader.settle .prose (number (line + 1) (documentLines front)) =
      .ok (transcript, s)) : scan identifier transcript = .ok groups := by
  rw [extract, normalize_eq_feed, hfeed] at h
  exact h

theorem newline_not_mem_of_feed
    (hfeed : feed Margin.reader.settle .prose (number (line + 1) (documentLines front)) =
      .ok (transcript, s)) :
    ∀ l ∈ transcript.map unnumbered, '\n' ∉ l.text.toList := by
  intro l hl
  rw [eq_map_cut isBetween_prose hfeed, List.map_map] at hl
  obtain ⟨v, hv, rfl⟩ := List.mem_map.mp hl
  obtain ⟨hv, hblock⟩ := List.mem_filter.mp hv
  have hnumbered : (v.line, v.number) ∈ number (line + 1) (documentLines front) :=
    map_visits hfeed ▸ List.mem_map_of_mem hv
  have hline := newline_not_mem_plain (not_mem_of_mem_documentLines (mem_of_mem_number hnumbered))
  rwa [plain_of_isInBlock hblock] at hline

variable (hfront : front.toList.getLast? ≠ some '\r') (hline : IsLine blank)
  (hblank : trimStart blank = "")
  (hfeed : feed Margin.reader.settle .prose (number (line + 1) (documentLines front)) =
    .ok (transcript, s))

include hfront hline hblank hfeed

theorem extract_clear (rest : String)
    (hcut : (Visit.mk s blank (numberBehind front line)).cut.text = "") :
    extract identifier (front ++ "\n" ++ "" ++ "\n" ++ rest) line =
      extract identifier (front ++ "\n" ++ blank ++ "\n" ++ rest) line := by
  have hs : s.IsBetween := isBetween_of_feed isBetween_prose hfeed
  rw [extract_between rest hfront isLine_empty hfeed, extract_between rest hfront hline hfeed,
    number_cons, number_cons, feed_cons, feed_cons, settle_clear hs _ hblank hcut]

variable (identifier) in
/-- Among output lines the margin stays as it is, and a prompt in another column tells. -/
theorem exists_differs_in_output {margin : Nat} (hs : s = .output margin)
    (hcut : dropChars margin blank ≠ "") :
    ∃ rest, ¬SameOutcome (extract identifier (front ++ "\n" ++ "" ++ "\n" ++ rest) line)
      (extract identifier (front ++ "\n" ++ blank ++ "\n" ++ rest) line) := by
  subst hs
  have hbetween := isBetween_output margin
  have hprompt : IsLine (indent (margin + 1) "iex> 1") :=
    isLine_indent (margin + 1) (isLine_of_not_mem (by simp) (by simp))
  have hopens : Prompt.opens (trimStart (indent (margin + 1) "iex> 1")) = true := by
    rw [trimStart_indent]
    rfl
  have hcolumn : leadingBlanks (indent (margin + 1) "iex> 1") ≠ margin := by
    rw [leadingBlanks_indent]
    omega
  have hlong : margin < (indent (margin + 1) "iex> 1").length := by
    rw [← String.length_toList, toList_indent, List.length_append, List.length_replicate]
    omega
  obtain ⟨d, hd⟩ := (settle_output_fails_iff hopens margin (numberBehind front line + 1)).mpr
    ⟨hlong, hcolumn⟩
  have hkind : d.kind = .indentationMismatch := by
    obtain ⟨-, -, rfl⟩ := (settle_eq_error_iff _).mp hd
    rfl
  have hshown := settle_blank hbetween hblank (numberBehind front line)
  simp only [hcut, if_false] at hshown
  refine ⟨indent (margin + 1) "iex> 1", ?_⟩
  rw [extract_between_of_ok _ hfront isLine_empty hfeed (settle_empty hbetween _),
    extract_between_of_ok _ hfront hline hfeed hshown, documentLines_of_isLine hprompt,
    number_cons, number_nil, feed_cons_of_ok _ (settle_prose_of_opens _ hopens),
    feed_cons_of_error _ hd]
  change ¬SameOutcome (scan identifier _) (.error d)
  cases hscan : scan identifier _ with
  | ok groups => exact fun h => h
  | error e =>
    intro h
    exact kind_of_scan_error hscan (h.1.trans hkind)

variable {groups : List Group} (hextract : extract identifier front line = .ok groups)

include hextract

/-- Where the prompts of a block have opened no group, the white space is lost. -/
theorem extract_clear_of_closed {margin : Nat} (hs : s = .afterPrompt margin)
    (hclosed : isOpenBehind (transcript.map unnumbered) = false) (rest : String) :
    extract identifier (front ++ "\n" ++ "" ++ "\n" ++ rest) line =
      extract identifier (front ++ "\n" ++ blank ++ "\n" ++ rest) line := by
  subst hs
  have hbetween : (State.afterPrompt margin).IsBetween := isBetween_of_feed isBetween_prose hfeed
  have hplain := (groupsOf_of_scan (transcript_of_extract hextract hfeed)).1
  have hcut := trimStart_dropChars_of_blank margin hblank
  rw [extract_between_of_ok rest hfront isLine_empty hfeed (settle_empty hbetween _),
    extract_between_of_ok rest hfront hline hfeed (settle_blank hbetween hblank _)]
  cases feed Margin.reader.settle (.output margin) _ with
  | error d => rfl
  | ok p => exact scan_closed_congr identifier hplain hclosed rfl hcut

/-- Behind a prompt the white space becomes a line of the expected result. -/
theorem differs_in_group {margin : Nat} (hs : s = .afterPrompt margin)
    (hcut : dropChars margin blank ≠ "")
    (hopen : isOpenBehind (transcript.map unnumbered) = true) :
    ¬SameOutcome (extract identifier (front ++ "\n" ++ "" ++ "\n" ++ "") line)
      (extract identifier (front ++ "\n" ++ blank ++ "\n" ++ "") line) := by
  subst hs
  have hbetween : (State.afterPrompt margin).IsBetween := isBetween_of_feed isBetween_prose hfeed
  have hnone : documentLines "" = [""] := rfl
  have hscan := transcript_of_extract hextract hfeed
  have hnewline : '\n' ∉ (dropChars margin blank).toList := by
    rw [toList_dropChars]
    exact fun hmem => hline.1 (List.mem_of_mem_drop hmem)
  rw [extract_between_of_ok _ hfront isLine_empty hfeed (settle_empty hbetween _),
    extract_between_of_ok _ hfront hline hfeed (settle_blank hbetween hblank _), hnone,
    number_cons, number_nil, feed_cons_of_ok _ (settle_empty (isBetween_output margin) _)]
  exact not_sameOutcome_of_open hscan (newline_not_mem_of_feed hfeed) hopen
    (l := ⟨dropChars margin blank, numberBehind front line⟩)
    (trimStart_dropChars_of_blank margin hblank) hcut hnewline _ _

end Between

/-- **White space on a line matters only where it is given out.**  Lines of white space can be
emptied, any number at once, and the result stays the same, if none of them shows white space behind
its margin.  Of a line that does so this is wrong for some text behind it, unless the line stands
behind prompts that have opened no group. -/
theorem extract_clears_iff (identifier : Identifier) (line : Int) :
    (∀ doc cleared, List.Forall₂ Clears (documentLines doc) (documentLines cleared) →
      (∀ p ∈ (documentVisits doc line).zip (documentLines cleared),
        p.1.showsBlanks = true → p.2 = p.1.line) →
      extract identifier cleared line = extract identifier doc line) ∧
    ∀ front blank groups transcript s, front.toList.getLast? ≠ some '\r' → IsLine blank →
      trimStart blank = "" → extract identifier front line = .ok groups →
      feed Margin.reader.settle .prose (number (line + 1) (documentLines front)) =
        .ok (transcript, s) →
      ((∀ rest, SameOutcome (extract identifier (front ++ "\n" ++ "" ++ "\n" ++ rest) line)
          (extract identifier (front ++ "\n" ++ blank ++ "\n" ++ rest) line)) ↔
        ((Visit.mk s blank (numberBehind front line)).showsBlanks = true →
          (∃ margin, s = .afterPrompt margin) ∧
            isOpenBehind (transcript.map unnumbered) = false)) := by
  constructor
  · intro doc cleared hclears hkept
    rw [extract, extract, normalize_eq_feed, normalize_eq_feed,
      feed_clears isBetween_prose hclears hkept]
  · intro front blank groups transcript s hfront hline hblank hextract hfeed
    by_cases hcut : (Visit.mk s blank (numberBehind front line)).cut.text = ""
    · refine iff_of_true (fun rest => ?_) fun hshows => ?_
      · rw [extract_clear hfront hline hblank hfeed rest hcut]
        exact .refl _
      · simp [Visit.showsBlanks, hcut] at hshows
    · have hshows : (Visit.mk s blank (numberBehind front line)).showsBlanks = true := by
        simp [Visit.showsBlanks, hblank, hcut]
      rw [hshows]
      constructor
      · intro hsame _
        cases s with
        | prompt margin => exact (isBetween_of_feed isBetween_prose hfeed margin rfl).elim
        | prose => exact (hcut ((dropChars_leadingBlanks blank).trans hblank)).elim
        | output margin =>
          obtain ⟨rest, hdiffers⟩ :=
            exists_differs_in_output identifier hfront hline hblank hfeed rfl hcut
          exact (hdiffers (hsame rest)).elim
        | afterPrompt margin =>
          refine ⟨⟨margin, rfl⟩, ?_⟩
          by_contra hopen
          exact differs_in_group hfront hline hblank hfeed hextract rfl hcut
            (Bool.not_eq_false _ ▸ hopen) (hsame "")
      · intro hlost rest
        obtain ⟨⟨margin, hs⟩, hclosed⟩ := hlost rfl
        rw [extract_clear_of_closed hfront hline hblank hfeed hextract hs hclosed rest]
        exact .refl _

/-- In prose, and behind a margin of four columns, two spaces can be removed; behind an output line
without a margin they keep the next prompt out of a new block. -/
theorem extract_clears_sample :
    extract .moduledoc "Text\n  \n    iex> 1\n    1\n  \nMore" 0 =
      extract .moduledoc "Text\n\n    iex> 1\n    1\n\nMore" 0 ∧
    ∃ rest, ¬SameOutcome (extract .moduledoc ("iex> 1\n1" ++ "\n" ++ "" ++ "\n" ++ rest) 0)
      (extract .moduledoc ("iex> 1\n1" ++ "\n" ++ "  " ++ "\n" ++ rest) 0) := by
  obtain ⟨hclears, hiff⟩ := extract_clears_iff .moduledoc 0
  constructor
  · have hlines : documentLines "Text\n  \n    iex> 1\n    1\n  \nMore" =
        ["Text", "  ", "    iex> 1", "    1", "  ", "More"] := by decide +kernel
    have hcleared : documentLines "Text\n\n    iex> 1\n    1\n\nMore" =
        ["Text", "", "    iex> 1", "    1", "", "More"] := by decide +kernel
    have hwhite : trimStart "  " = "" := by decide +kernel
    refine (hclears _ _ ?_ ?_).symm
    · rw [hlines, hcleared]
      exact .cons (.inl rfl) (.cons (.inr ⟨hwhite, rfl⟩) (.cons (.inl rfl) (.cons (.inl rfl)
        (.cons (.inr ⟨hwhite, rfl⟩) (.cons (.inl rfl) .nil)))))
    · decide +kernel
  · by_contra hsame
    have hfeed : feed Margin.reader.settle .prose (number (0 + 1) (documentLines "iex> 1\n1")) =
        .ok ([⟨"iex> 1", 1⟩, ⟨"1", 2⟩], .output 0) := by decide +kernel
    have hextract : extract .moduledoc "iex> 1\n1" 0 =
        .ok [⟨1, .moduledoc, [⟨["1"], "1", "\niex> 1\n1"⟩]⟩] := by decide +kernel
    have hlost := (hiff "iex> 1\n1" "  " _ _ _ (by decide +kernel) (by decide +kernel)
      (by decide +kernel) hextract hfeed).mp fun rest => by
        by_contra hdiffers
        exact hsame ⟨rest, hdiffers⟩
    obtain ⟨⟨margin, hbehind⟩, -⟩ := hlost (by decide +kernel)
    cases hbehind

/-- Two spaces put two blocks into one group. -/
theorem blank_joins_groups :
    List.Forall₂ Clears (documentLines "iex> 1\n1\n  \niex> 2\n2")
        (documentLines "iex> 1\n1\n\niex> 2\n2") ∧
      extract .moduledoc "iex> 1\n1\n  \niex> 2\n2" 0 =
        .ok [⟨1, .moduledoc, [⟨["1"], "1\n  ", "\niex> 1\n1\n  "⟩, ⟨["2"], "2", "\niex> 2\n2"⟩]⟩] ∧
      extract .moduledoc "iex> 1\n1\n\niex> 2\n2" 0 =
        .ok [⟨1, .moduledoc, [⟨["1"], "1", "\niex> 1\n1"⟩]⟩,
          ⟨4, .moduledoc, [⟨["2"], "2", "\niex> 2\n2"⟩]⟩] ∧
      ¬SameOutcome (extract .moduledoc "iex> 1\n1\n\niex> 2\n2" 0)
        (extract .moduledoc "iex> 1\n1\n  \niex> 2\n2" 0) := by
  have hlines : documentLines "iex> 1\n1\n  \niex> 2\n2" =
      ["iex> 1", "1", "  ", "iex> 2", "2"] := by decide +kernel
  have hcleared : documentLines "iex> 1\n1\n\niex> 2\n2" =
      ["iex> 1", "1", "", "iex> 2", "2"] := by decide +kernel
  have hwhite : trimStart "  " = "" := by decide +kernel
  have hjoined : extract .moduledoc "iex> 1\n1\n  \niex> 2\n2" 0 =
      .ok [⟨1, .moduledoc,
        [⟨["1"], "1\n  ", "\niex> 1\n1\n  "⟩, ⟨["2"], "2", "\niex> 2\n2"⟩]⟩] := by decide +kernel
  have happart : extract .moduledoc "iex> 1\n1\n\niex> 2\n2" 0 =
      .ok [⟨1, .moduledoc, [⟨["1"], "1", "\niex> 1\n1"⟩]⟩,
        ⟨4, .moduledoc, [⟨["2"], "2", "\niex> 2\n2"⟩]⟩] := by decide +kernel
  refine ⟨?_, hjoined, happart, ?_⟩
  · rw [hlines, hcleared]
    exact .cons (.inl rfl) (.cons (.inl rfl) (.cons (.inr ⟨hwhite, rfl⟩) (.cons (.inl rfl)
      (.cons (.inl rfl) .nil))))
  · rw [hjoined, happart]
    intro hsame
    have hlength := congrArg List.length hsame
    cases hlength

end DocExamples.Transcript
