import DocExamples.Raised
import DocExamples.Script.Grammar.Recognition

/-!
Why scripts do not parse.

Recognition runs twice: once to find how far a script can be read, and once more with the
alternatives that fit what is wrong.  If none of them complains, the last token that was looked at
the first time stands where it cannot.  A fault of the tokens that were not looked at comes first in
any case, as does a bracket that was opened on a line above.
-/

namespace DocExamples.Script

/-- Why a script does not parse: a message, the line it is reported on and the kind of error. -/
structure ParseFault where
  message : String
  line : Nat
  cls : ExceptionClass
deriving DecidableEq, Repr

namespace ParseFault

/-- A token, or the end of a line, stands where it cannot. -/
def invalidSyntax (line : Nat) : ParseFault := ⟨"invalid syntax", line, .builtin "SyntaxError"⟩

/-- White space stands in front of a line, or is missing there. -/
def indentation (message : String) (line : Nat) : ParseFault :=
  ⟨message, line, .builtin "IndentationError"⟩

/-- The fault of a script whose tokens cannot be read. -/
def lexical (f : LexicalFault) : ParseFault := ⟨f.message, f.line, f.cls⟩

end ParseFault

namespace Row

/-- The line of the last of the first `seen` tokens. -/
def lineAt (r : Row) (seen : Nat) : Nat := (r.tokens[seen - 1]?.map (·.line)).getD 1

/-- The fault of the tokens that were not looked at, as far as it is reported. -/
def faultBehind (r : Row) (seen : Nat) : Option LexicalFault := do
  let fault ← r.fault
  if !fault.isQuiet then return fault
  else
    let (opening, line) ← r.opened
    if line < r.lineAt seen then return .unclosed opening line else none

/-- The fault of a row, if the fault `f` was found behind so many tokens. -/
def faultOr (r : Row) (seen : Nat) (f : ParseFault) : ParseFault :=
  ((r.faultBehind seen).map ParseFault.lexical).getD f

/-- The outcome of recognition, and the number of tokens that were looked at. -/
def recognize (r : Row) (explaining : Bool) (seen : Nat) :
    Except Grammar.Stop (Option Nat) × Nat :=
  let fuel := 2000 + 400 * r.tokens.size
  let (result, sight) :=
    (Grammar.fitRule r fuel .file 0).run.run { seen := seen, explaining := explaining }
  (result, sight.seen)

/-- The fault of a row for which recognition stopped. -/
def stopped (r : Row) (seen : Nat) : Grammar.Stop → ParseFault
  | .lexical => (r.fault.map ParseFault.lexical).getD (.invalidSyntax (r.lineAt seen))
  | .complaint message line aboutDepth =>
    r.faultOr seen
      ⟨message, line, .builtin (if aboutDepth then "IndentationError" else "SyntaxError")⟩
  | .outOfFuel => .invalidSyntax (r.lineAt seen)

end Row

/-- Why tokens are no script. -/
def explain (r : Row) : ParseFault :=
  match r.recognize false 0 with
  | (.error stop, seen) => r.stopped seen stop
  | (.ok (some _), _) => .invalidSyntax 1
  | (.ok none, seen) =>
    match r.recognize true seen with
    | (.error stop, seenNow) => r.stopped seenNow stop
    | (.ok _, seenNow) =>
      match r.tokens[seen - 1]?.map Placed.token with
      | some .indent => .indentation "unexpected indent" (r.lineAt seenNow)
      | some .dedent => .indentation "unexpected unindent" (r.lineAt seenNow)
      | _ => r.faultOr seenNow (.invalidSyntax (r.lineAt seen))

end DocExamples.Script
