import DocExamples.Script.Lexer

/-!
The tokens of a whole script in a row.

Every logical line is followed by a token for its end.  A line that stands deeper than the line
before it, or less deep, has tokens for that in front, so that blocks are marked as brackets are.  A
row ends with the end of the script or with what stopped the reading of it.
-/

namespace DocExamples.Script

/-- The tokens of a script in a row. -/
structure Row where
  tokens : Array Placed
  /-- What stands behind the last token in place of the end of the script. -/
  fault : Option LexicalFault
  /-- The innermost bracket that is open behind the last token, and its line. -/
  opened : Option (Char × Nat)
deriving Repr

namespace Row

/-! ### Depths of lines -/

/-- The most depths that lines may have one inside the other. -/
def mostDepths : Nat := 100

/-- The marks in front of a line of some depth, and the depths of the blocks around it; `stack`
holds these depths for the line before, the innermost one first. -/
def enter (line : Nat) (d : Depth) (stack : List Depth) :
    Except LexicalFault (List Token × List Depth) :=
  let lower := stack.dropWhile fun s => d.wide < s.wide
  match lower with
  | [] => .error (.depth line)
  | top :: _ =>
    if d.wide = top.wide then
      if d.narrow ≠ top.narrow then .error (.tabs line)
      else .ok (List.replicate (stack.length - lower.length) .dedent, lower)
    else if lower.length < stack.length then .error (.depth line)
    else if mostDepths ≤ stack.length then .error (.levels line)
    else if d.narrow ≤ top.narrow then .error (.tabs line)
    else .ok ([.indent], d :: stack)

/-- How far a row has been put together. -/
structure Draft where
  tokens : Array Placed := #[]
  /-- The depths of the blocks around the last line, the innermost one first. -/
  stack : List Depth := [{}]
  fault : Option LexicalFault := none

/-- Go on with the tokens of a line; `place` is where the line starts if it has none. -/
def Draft.addLine (d : Draft) (depth : Depth) (tokens : List Placed) (place : Position) : Draft :=
  if d.fault.isSome then d
  else
    let first := (tokens.head?.map (·.start)).getD place
    match enter first.line depth d.stack with
    | .error f => { d with fault := some f }
    | .ok (marks, stack) =>
      { d with
        tokens := d.tokens ++ (marks.map fun t => (⟨t, first, first⟩ : Placed)) ++ tokens
        stack := stack }

/-- Go on with a logical line and its end. -/
def Draft.addLogicalLine (d : Draft) (l : LogicalLine) : Draft :=
  d.addLine l.depth (l.tokens ++ [⟨.newline, l.stop, l.stop⟩]) l.stop

/-- Go on with the end of the script. -/
def Draft.finish (d : Draft) (place : Position) : Draft :=
  let marks := List.replicate (d.stack.length - 1) Token.dedent ++ [Token.finish]
  let placed : List Placed := marks.map fun t => ⟨t, place, place⟩
  { d with tokens := d.tokens ++ placed }

/-! ### Rows -/

/-- The tokens that a machine has read. -/
def ofLexer (l : Lexer) : Row :=
  let whole := l.lines.reverse.foldl Draft.addLogicalLine {}
  match whole.fault, l.fault with
  | some f, _ => ⟨whole.tokens, some f, none⟩
  | none, none => ⟨(whole.finish ⟨l.here.line - 1, 0⟩).tokens, none, none⟩
  | none, some f =>
    let last :=
      match l.mode with
      | .jointAtStart | .joinedAtStart => whole
      | _ => whole.addLine l.depth l.tokens.reverse l.start
    match last.fault with
    | some f => ⟨last.tokens, some f, none⟩
    | none => ⟨last.tokens, some f, l.brackets.head?⟩

/-- How many brackets are open behind each token. -/
def levels (r : Row) : Array Nat :=
  (r.tokens.foldl
    (fun (p : Nat × Array Nat) t =>
      let level :=
        match t.token with
        | .mark "(" | .mark "[" | .mark "\x7b" => p.1 + 1
        | .mark ")" | .mark "]" | .mark "\x7d" => p.1 - 1
        | _ => p.1
      (level, p.2.push level))
    (0, #[])).2

end Row

end DocExamples.Script
