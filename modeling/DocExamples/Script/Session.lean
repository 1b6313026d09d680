import DocExamples.Script.Eval
import DocExamples.Script.Parser
import DocExamples.Script.Printer
import DocExamples.Text.Blank
import DocExamples.Text.Lines

/-!
Sessions: an evaluator that runs sources as scripts and keeps the names that they bind.

A source is run in two steps: the statements in front of a last expression as one block, and that
expression.  Before each step the lines of what is to be run are checked, as lines are numbers of a
limited size.  Before a block is run, it is also checked that it nowhere binds a name that cannot be
bound, and a text that it starts with is bound to the name of the documentation.  Each step takes
the built-in names as it finds them and keeps them to its end.
-/

namespace DocExamples.Script

open Text

/-! ### Reading -/

/-- The error of a source with a NUL in it, which is no fault of its syntax. -/
def nulError : Raised := .builtin "ValueError" "source code string cannot contain null bytes"

/-- The statements of a source, or the fault of its syntax. -/
def parseSource (source : String) : Except Raised (Except ParseFault (List PlacedStmt)) :=
  if source.toList.contains '\x00' then .error nulError else .ok (parse source)

/-- What a fault of a source throws whose first line has the given number. -/
def ParseFault.thrown (place : Place) (line : Int) (f : ParseFault) : Thrown :=
  .ofNotice (some f.cls) (Notice.write place (some (line + f.line - 1)) f.message)

/-! ### Lines -/

/-- The line is too large or too small. -/
def exceedsLine (line : Int) : Bool := line < -0x80000000 || 0x7FFFFFFF < line

/-- The complaint about such a line. -/
def lineOverflow : Raised := .builtin "OverflowError" "Python int too large to convert to C int"

/-- Two numbers between parentheses. -/
def pairText (m n : Int) : String := "(" ++ toString m ++ ", " ++ toString n ++ ")"

/-- The complaint about code on several lines that starts on a negative one. -/
def badLines (line : Int) (e : Extent) : Raised :=
  .builtin "ValueError"
    ("AST node column range " ++ pairText e.start.column e.stop.column ++ " for line range "
      ++ pairText (line + e.start.line - 1) (line + e.stop.line - 1) ++ " is not valid")

/-- Check the lines of code in a source whose first line has the given number.  Lines that are
counted from one need no check, as no source is so long. -/
def checkLines (line : Int) (extents : List Extent) : Except Raised Unit :=
  let shifted (n : Nat) : Int := line + n - 1
  let exceeds (n : Nat) : Bool := exceedsLine (shifted n)
  if line = 1 then .ok ()
  else if extents.any fun e => exceeds e.start.line || exceeds e.stop.line then
    .error lineOverflow
  else
    match extents.find? fun e => shifted e.start.line < 0 ∧ e.stop.line ≠ e.start.line with
    | some e => .error (badLines line e)
    | none => .ok ()

/-! ### Blocks -/

/-- Where the statement binds the name that cannot be bound. -/
def PlacedStmt.refusal? (s : PlacedStmt) : Option Position :=
  if s.stmt.targets.contains debugName then some (s.debugAt.getD s.extent.start) else none

/-- The name of a source from a place. -/
def sourceName (place : Place) : String := (place.file.filter (· ≠ "")).getD "<doctest>"

/-- The complaint about a line of a source that binds the name that cannot be bound. -/
def cannotAssign (place : Place) (line : Int) : Raised :=
  .builtin "SyntaxError"
    ("cannot assign to " ++ debugName ++ " (" ++ lastName (sourceName place) ++ ", line "
      ++ lineText line ++ ")")

/-- Check what the statements of a source bind whose first line has the given number. -/
def checkTargets (place : Place) (line : Int) (block : List PlacedStmt) : Except Raised Unit :=
  match block.findSome? (·.refusal?) with
  | some position => .error (cannotAssign place (line + position.line - 1))
  | none => .ok ()

/-- The text that a block starts with, as a statement of its own. -/
def leadingText? : List Stmt → Option String
  | .expr (.str text) :: _ => some text
  | _ => none

/-- Bind the name of the documentation to a text, if there is one. -/
def document : Option String → Eval Store Thrown Unit
  | some text => bindNames [documentationName] (.str text)
  | none => return ()

/-- Run statements with the names that are built in now. -/
def runFrame (statements : List Stmt) : Eval Store Thrown Unit := do
  runAll (← get).names.builtins statements

/-- Run the statements of a source as one block.  The block is checked as a whole before anything
runs, and the text that it starts with becomes its documentation. -/
def exec (place : Place) (line : Int) : List PlacedStmt → Eval Store Thrown Unit
  | [] => return ()
  | block => do
    settled (checkLines line (block.map (·.extent)))
    settled (checkTargets place line block)
    document (leadingText? (block.map (·.stmt)))
    runFrame (block.map (·.stmt))

/-! ### Running -/

/-- Run the statements of a source whose first line has the given number.  A last expression is no
part of the block in front of it. -/
def runPlaced (place : Place) (line : Int) (statements : List PlacedStmt) :
    Eval Store Thrown Value := do
  match statements.getLast? with
  | none => return .none
  | some last =>
    if last.stmt.isExpression then
      exec place line statements.dropLast
      settled (checkLines line [last.core])
      last.stmt.value (← get).names.builtins
    else
      exec place line statements
      last.stmt.result

/-- The value of a source whose first line has the given number. -/
def evaluate (place : Place) (source : String) (line : Int) : Eval Store Thrown Value := do
  match ← settled (parseSource source) with
  | .ok statements => runPlaced place line statements
  | .error f => throw (f.thrown place line)

/-! ### The last expression -/

/-- The last line of a source that is not blank, without the white space at its ends. -/
def lastLine (source : String) : String :=
  (((boundaryLines source).map trim).filter (· ≠ "")).getLast?.getD ""

/-- The text of the last statement of a source, or its last line if it has no statement. -/
def lastExpression (source : String) : Except Raised String := do
  match ← parseSource source with
  | .ok statements => return (statements.getLast?.map (·.stmt.write)).getD (lastLine source)
  | .error _ => return lastLine source

/-- The evaluator of a session on documentation from a place. -/
def session (place : Place) : Evaluator Store where
  heap s := s.heap
  evaluate := evaluate place
  render v := lift (Work.read (Value.shown · v))
  lastExpression source := settled (lastExpression source)

end DocExamples.Script
