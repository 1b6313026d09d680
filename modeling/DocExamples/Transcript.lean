import DocExamples.Example
import DocExamples.Margin

/-!
Transcripts: from documentation lines to groups of examples.

A group opens at an `iex>` prompt outside of any group and closes at an empty line or a code fence.
Inside a group the prompts in a row form one expression and the lines behind them its expected
result; an `iex>` prompt behind an expected result opens the next example of the group.
-/

namespace DocExamples.Transcript

open Text Transducer

/-! ### Kinds of lines -/

/-- The line opens or closes a fenced block. -/
def isFence (s : String) : Bool := startsWith "```" s || startsWith "~~~" s

/-- The line closes a group. -/
def isTerminator (s : String) : Bool := s = "" || isFence s

/-- A line opens an expression. -/
def isOpening (s : String) : Bool := startsWith "iex>" s

/-- A line continues an expression. -/
def isContinuation (s : String) : Bool := startsWith "...>" s

/-! ### Reading a transcript -/

/-- A group that further examples can be added to, with the last example first. -/
structure OpenGroup where
  start : Int
  examples : List Example
deriving DecidableEq, Repr

/-- The group, closed. -/
def OpenGroup.close (identifier : Identifier) (g : OpenGroup) : Group :=
  ⟨g.start, identifier, g.examples.reverse⟩

/-- What a reader of a transcript holds; all lists have their last item first. -/
structure Reading where
  /-- The lines of the expression being read, without prompts. -/
  source : List String := []
  /-- The lines behind that expression. -/
  output : List String := []
  /-- The lines of that expression, with prompts. -/
  prompts : List String := []
  /-- The next expression opens a group. -/
  isFresh : Bool := true
  groups : List OpenGroup := []
deriving DecidableEq, Repr

namespace Reading

/-- Start an expression, and a group if one is due. -/
def start (r : Reading) (line : SourceLine) : Reading :=
  { r with
    source := [Prompt.fragment line.text]
    prompts := [line.text]
    isFresh := false
    groups := if r.isFresh then ⟨line.number, []⟩ :: r.groups else r.groups }

/-- Continue the expression. -/
def extend (r : Reading) (line : SourceLine) : Reading :=
  { r with
    source := Prompt.fragment line.text :: r.source
    prompts := line.text :: r.prompts }

/-- Add a line to the output. -/
def answer (r : Reading) (line : SourceLine) : Reading :=
  { r with output := line.text :: r.output }

/-- The example that the expression and its output make. -/
def toExample (r : Reading) : Example :=
  let expected := joinLines r.output.reverse
  { source := r.source.reverse
    expected := expected
    display := "\n" ++ joinLines r.prompts.reverse ++ "\n" ++ expected }

/-- Move the expression and its output into the last group. -/
def close (r : Reading) : Reading :=
  { r with
    source := []
    output := []
    prompts := []
    groups := r.groups.modifyHead fun g => { g with examples := r.toExample :: g.examples } }

/-- The groups at the end of the transcript. -/
def finish (r : Reading) : List OpenGroup :=
  (if r.source.isEmpty then r else r.close).groups.reverse

end Reading

/-- Look at one line.  An opening prompt behind an output closes the example and is looked at
again, and a numbered prompt is looked at again without its number. -/
def turn (r : Reading) (line : SourceLine) : Except Defect (Turn Reading SourceLine OpenGroup) :=
  if isOpening line.text then
    if !r.source.isEmpty && !r.output.isEmpty then .ok (.again r.close line)
    else if !r.source.isEmpty then .ok (.taken [] (r.extend line))
    else .ok (.taken [] (r.start line))
  else if isContinuation line.text && !r.source.isEmpty then .ok (.taken [] (r.extend line))
  else if Prompt.isNumbered line.text then do
    let text ← Prompt.dropNumber line.number line.text
    return .again r { line with text := text }
  else if r.source.isEmpty && r.output.isEmpty then
    .ok (.taken [] { r with isFresh := true, prompts := [] })
  else if isTerminator line.text then .ok (.taken [] { r.close with isFresh := true })
  else .ok (.taken [] (r.answer line))

/-- How many further looks at a line there can be. -/
def rank (r : Reading) (line : SourceLine) : Nat :=
  if Prompt.isNumbered line.text then 2
  else if !r.source.isEmpty && !r.output.isEmpty then 1
  else 0

theorem rank_lt_of_turn {r r' : Reading} {line line' : SourceLine}
    (h : turn r line = .ok (.again r' line')) : rank r' line' < rank r line := by
  simp only [turn] at h
  split at h
  · next hopening =>
    have hplain := Prompt.isNumbered_of_startsWith (Or.inl hopening)
    split at h
    · next hpending =>
      cases h
      simp [rank, hplain, hpending, Reading.close]
    · split at h <;> cases h
  · split at h
    · cases h
    · split at h
      · next hnumbered =>
        cases htext : Prompt.dropNumber line.number line.text with
        | error e =>
          simp only [htext] at h
          cases h
        | ok text =>
          simp only [htext] at h
          cases h
          have hplain := Prompt.isNumbered_of_startsWith (Prompt.startsWith_of_dropNumber htext)
          simp only [rank, hnumbered, hplain, Bool.false_eq_true, if_true, if_false]
          split <;> omega
      · repeat' split at h
        all_goals cases h

/-- The reader of transcripts. -/
def reader : Rereader Defect Reading SourceLine OpenGroup where
  turn := turn
  rank := rank
  rank_lt := rank_lt_of_turn

/-! ### From text to groups -/

/-- A group is well formed if at most one of its examples expects an exception. -/
def checkGroup (g : Group) : Except Defect Unit :=
  if 1 < (g.examples.filter (·.expectsException)).length then
    .error (.multipleExceptions g.startLine)
  else .ok ()

/-- The groups of a transcript. -/
def scan (identifier : Identifier) (lines : List SourceLine) : Except Defect (List Group) := do
  let found := (← reader.run Reading.finish {} lines).map (OpenGroup.close identifier)
  found.forM checkGroup
  return found

/-- The groups of a documentation text that belongs to an attribute on line `line`: the text
starts on the line behind. -/
def extract (identifier : Identifier) (doc : String) (line : Int) : Except Defect (List Group) := do
  scan identifier (← Margin.normalize (documentLines doc) (line + 1))

end DocExamples.Transcript
