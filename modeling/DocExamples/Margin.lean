import DocExamples.Prompt
import DocExamples.Transducer

/-!
Margins.

Examples are usually indented inside a documentation text.  The column of the first prompt of a
block is the block's margin.  Every further prompt, and every line directly behind a prompt, must
start exactly there; later output lines are cut by the width of the margin.  A line that is empty
behind the margin ends the block, and lines outside of blocks are left out.
-/

namespace DocExamples

/-- A line of documentation without its margin, and its number in the document. -/
structure SourceLine where
  text : String
  number : Int
deriving DecidableEq, Repr

namespace Margin

open Text Transducer

/-- Where a reader of documentation lines stands. -/
inductive State where
  /-- Outside of a block. -/
  | prose
  /-- In front of a prompt of a block with this margin. -/
  | prompt (margin : Nat)
  /-- Directly behind a prompt of a block with this margin. -/
  | afterPrompt (margin : Nat)
  /-- Among the output lines of a block with this margin. -/
  | output (margin : Nat)
deriving DecidableEq, Repr

/-- The line behind the margin, for lines that must start at it. -/
def cutExactly (margin : Nat) (number : Int) (line : String) : Except Defect String :=
  let cut := dropChars margin line
  if trimStart line ≠ "" ∧ trimStart line ≠ cut then
    .error (.indentationMismatch number line margin)
  else .ok cut

/-- Look at one line.  A line with a prompt is looked at twice: the first look only finds the
prompt. -/
def turn : State → String × Int → Except Defect (Turn State (String × Int) SourceLine)
  | .prose, (line, number) =>
    if Prompt.opens (trimStart line) then
      .ok (.again (.prompt (leadingBlanks line)) (line, number))
    else .ok (.taken [] .prose)
  | .prompt margin, (line, number) => do
    let cut ← cutExactly margin number line
    return .taken [⟨cut, number⟩] (.afterPrompt margin)
  | .afterPrompt margin, (line, number) => do
    let cut ← cutExactly margin number line
    return .taken [⟨cut, number⟩]
      (if Prompt.isPrompt cut then .afterPrompt margin else .output margin)
  | .output margin, (line, number) =>
    let cut := dropChars margin line
    if cut = "" then .ok (.taken [⟨cut, number⟩] .prose)
    else if Prompt.opens (trimStart line) then .ok (.again (.prompt margin) (line, number))
    else .ok (.taken [⟨cut, number⟩] (.output margin))

/-- How many further looks at a line there can be. -/
def rank : State → Nat
  | .prompt _ => 0
  | _ => 1

/-- The reader of documentation lines. -/
def reader : Rereader Defect State (String × Int) SourceLine where
  turn := turn
  rank s _ := rank s
  rank_lt {s x s' x'} h := by
    obtain ⟨line, number⟩ := x
    cases s with
    | prose =>
      simp only [turn] at h
      split at h <;> cases h
      exact Nat.zero_lt_one
    | prompt margin =>
      simp only [turn] at h
      cases hc : cutExactly margin number line <;> simp only [hc] at h <;> cases h
    | afterPrompt margin =>
      simp only [turn] at h
      cases hc : cutExactly margin number line <;> simp only [hc] at h <;> cases h
    | output margin =>
      simp only [turn] at h
      split at h
      · cases h
      · split at h <;> cases h
        exact Nat.zero_lt_one

/-- Lines with their numbers, counted from `start`. -/
def number (start : Int) : List String → List (String × Int)
  | lines => lines.zipIdx.map fun (line, i) => (line, start + i)

/-- The lines of all blocks without their margins; the first line has the number `start`. -/
def normalize (lines : List String) (start : Int) : Except Defect (List SourceLine) :=
  reader.run (fun _ => []) .prose (number start lines)

end Margin

end DocExamples
