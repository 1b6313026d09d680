import DocExamples.Script.Grammar.Shape
import DocExamples.Script.Grammar.Table
import DocExamples.Script.Row
import Std.Data.HashMap

/-!
Recognition of scripts by the grammar.

A row of tokens is read from left to right; a rule either fits at a place, up to another place, or
does not.  What some rules came to at a place is remembered, so that no part is read too often.  How
far tokens were looked at is remembered too, as that tells where a script goes wrong.
-/

namespace DocExamples.Script.Grammar

/-- Why recognition stops without an answer. -/
inductive Stop where
  /-- A token is asked for that could not be read. -/
  | lexical
  | complaint (message : String) (line : Nat) (aboutDepth : Bool)
  | outOfFuel
deriving DecidableEq, Repr

/-- What recognition goes on with. -/
structure Sight where
  /-- The number of tokens that were looked at. -/
  seen : Nat := 0
  /-- An explanation of what is wrong is sought. -/
  explaining : Bool := false
  /-- Where rules stopped that were tried at a place before. -/
  known : Std.HashMap (Rule × Nat) (Option Nat) := {}

/-- A step of recognition. -/
abbrev Recognition := ExceptT Stop (StateM Sight)

/-- The rules whose outcome is remembered. -/
def isRemembered : Rule → Bool
  | .simpleStatement | .block | .dottedName | .expression | .starExpression | .disjunction
  | .conjunction | .inversion | .bitOr | .bitXor | .bitAnd | .shift | .sum | .term | .factor
  | .awaited | .primary | .strings | .arguments | .starTarget | .plainTarget | .targetPrimary
  | .deleteTarget | .badNamedExpression => true
  | _ => false

/-- What the pieces of an alternative came to. -/
structure Match where
  /-- The place behind the last piece, if all pieces fit. -/
  stop : Option Nat
  /-- The places where the pieces start, the last one first. -/
  starts : List Nat
  /-- No other alternative may be tried. -/
  committed : Bool

/-- The number of digits that a whole number may not have. -/
def hugeNumberMessage (digits : Nat) : String :=
  Text.tooManyDigitsMessage (some digits)
    ++ " - Consider hexadecimal for huge integer literals to avoid decimal conversion limits."

variable (row : Row)

/-- The token at a place. -/
def look (place : Nat) : Recognition Placed := do
  match row.tokens[place]? with
  | some t =>
    modify fun s => { s with seen := max s.seen (place + 1) }
    return t
  | none => throw .lexical

/-- The line of the last token that was looked at. -/
def lastLine : Recognition Nat := do
  let s ← get
  return (row.tokens[s.seen - 1]?.map (·.line)).getD 1

/-- The tokens between two places. -/
def between (start stop : Nat) : List Placed := (row.tokens.extract start stop).toList

/-- How many brackets are open behind the token in front of a place. -/
def levelBefore (place : Nat) : Nat := row.levels.getD (place - 1) 0

/-- The tokens of a piece, given the places where the pieces start and the place behind. -/
def pieceTokens (starts : List Nat) (stop piece : Nat) : List Placed :=
  let places := starts.reverse ++ [stop]
  between row (places.getD piece stop) (places.getD (piece + 1) stop)

/-- The former statements, which are functions now. -/
def formerStatements : List String := ["print", "exec"]

/-- An argument is named, or stands for named ones. -/
def isNamed : List Token → Bool
  | .mark "**" :: _ => true
  | .name _ :: .mark "=" :: _ => true
  | _ => false

/-- The number of arguments that are not named. -/
def plainCount (arguments : List Placed) : Nat :=
  ((items arguments).filter fun item => !isNamed (item.map (·.token))).length

/-- What a complaint is about, if there is reason for it. -/
def Complaint.subject? (c : Complaint) (starts : List Nat) (stop : Nat) :
    Option (Option (List Placed)) :=
  let tokens (piece : Nat) := pieceTokens row starts stop piece
  let subject := c.piece.map tokens
  match c.reason with
  | .always => some subject
  | .never => none
  | .insideBrackets =>
    let former :=
      match (tokens 1).map (·.token) with
      | [.name s] => formerStatements.contains s
      | _ => false
    if former || levelBefore row stop == 0 then none else some (c.piece.map fun _ => tokens 1)
  | .severalArguments => if 1 < plainCount (tokens 0) then some subject else none
  | .badTarget piece use =>
    let tokens := tokens piece
    (badTarget? use (tokens.length + 1) tokens).map some

/-- The message of a complaint. -/
def Complaint.message (c : Complaint) (subject : List Placed) (starts : List Nat) (stop : Nat) :
    String :=
  let first := pieceTokens row starts stop 0
  match c.wording with
  | .text s => s
  | .withLine s =>
    s ++ toString (((between row (starts.getLast?.getD 0) stop).head?.map (·.line)).getD 1)
  | .naming before after => before ++ (shapeOf subject).text ++ after
  | .argumentOrder =>
    "positional argument follows keyword argument" ++
      if (items first).any fun item => item.head?.map (·.token) = some (.mark "**") then
        " unpacking"
      else ""

/-- Complain, if there is reason to. -/
def complain (c : Complaint) (starts : List Nat) (stop : Nat) : Recognition Unit := do
  match c.subject? row starts stop with
  | none => return ()
  | some subject =>
    let line ←
      match subject.bind fun tokens => (withoutGrouping tokens.length tokens).head? with
      | some t => pure t.line
      | none => lastLine row
    throw (.complaint (c.message row (subject.getD []) starts stop) line c.aboutDepth)

mutual

/-- The place behind a rule that fits at a place. -/
def fitRule : Nat → Rule → Nat → Recognition (Option Nat)
  | 0, _, _ => throw .outOfFuel
  | fuel + 1, rule, place => do
    if isRemembered rule then
      match (← get).known[(rule, place)]? with
      | some stop =>
        let _ ← look row place
        return stop
      | none =>
        let stop ← fitAlternatives fuel (alternatives rule) place
        modify fun s => { s with known := s.known.insert (rule, place) stop }
        return stop
    else if rule = .plainExpression then
      let explaining := (← get).explaining
      modify fun s => { s with explaining := false }
      let stop ← fitAlternatives fuel (alternatives rule) place
      modify fun s => { s with explaining := explaining }
      return stop
    else fitAlternatives fuel (alternatives rule) place

/-- The place behind the first alternative that fits. -/
def fitAlternatives : Nat → List Alternative → Nat → Recognition (Option Nat)
  | 0, _, _ => throw .outOfFuel
  | _ + 1, [], _ => return none
  | fuel + 1, a :: rest, place => do
    if a.explaining && !(← get).explaining then fitAlternatives fuel rest place
    else
      let m ← fitPieces fuel a.pieces place [] false
      match m.stop, a.complaint with
      | some stop, none => return some stop
      | some stop, some c =>
        complain row c m.starts stop
        return none
      | none, _ => if m.committed then return none else fitAlternatives fuel rest place

/-- What pieces come to one behind the other. -/
def fitPieces : Nat → List Piece → Nat → List Nat → Bool → Recognition Match
  | 0, _, _, _, _ => throw .outOfFuel
  | _ + 1, [], place, starts, committed => return ⟨some place, starts, committed⟩
  | fuel + 1, .commit :: rest, place, starts, _ => fitPieces fuel rest place (place :: starts) true
  | fuel + 1, piece :: rest, place, starts, committed => do
    match ← fitPiece fuel piece place with
    | some stop => fitPieces fuel rest stop (place :: starts) committed
    | none => return ⟨none, starts, committed⟩

/-- The place behind a piece that fits at a place. -/
def fitPiece : Nat → Piece → Nat → Recognition (Option Nat)
  | 0, _, _ => throw .outOfFuel
  | fuel + 1, piece, place => do
    match piece with
    | .text s =>
      let t ← look row place
      return if written t.token = s then some (place + 1) else none
    | .token c =>
      let t ← look row place
      match c, t.token with
      | .number, .hugeInt digits => throw (.complaint (hugeNumberMessage digits) t.line false)
      | c, t => return if c.holds t then some (place + 1) else none
    | .rule r => fitRule fuel r place
    | .either sequences => fitEither fuel sequences place
    | .optional pieces => return some ((← fitAll fuel pieces place).getD place)
    | .many pieces => fitMany fuel [] pieces place
    | .atLeastOne pieces =>
      match ← fitAll fuel pieces place with
      | some stop => fitMany fuel [] pieces stop
      | none => return none
    | .separated separator pieces =>
      match ← fitAll fuel pieces place with
      | some stop => fitMany fuel [.text separator] pieces stop
      | none => return none
    | .ahead pieces => return (← fitAll fuel pieces place).map fun _ => place
    | .notAhead pieces => return if (← fitAll fuel pieces place).isSome then none else some place
    | .commit => return some place
    | .demand s =>
      let t ← look row place
      if written t.token = s then return some (place + 1)
      else throw (.complaint ("expected '" ++ s ++ "'") t.line false)

/-- The place behind some pieces that fit one behind the other. -/
def fitAll : Nat → List Piece → Nat → Recognition (Option Nat)
  | 0, _, _ => throw .outOfFuel
  | _ + 1, [], place => return some place
  | fuel + 1, piece :: rest, place => do
    match ← fitPiece fuel piece place with
    | some stop => fitAll fuel rest stop
    | none => return none

/-- The place behind the first sequence that fits. -/
def fitEither : Nat → List (List Piece) → Nat → Recognition (Option Nat)
  | 0, _, _ => throw .outOfFuel
  | _ + 1, [], _ => return none
  | fuel + 1, pieces :: rest, place => do
    match ← fitAll fuel pieces place with
    | some stop => return some stop
    | none => fitEither fuel rest place

/-- The place behind pieces that fit as often as they can, each time behind others. -/
def fitMany : Nat → List Piece → List Piece → Nat → Recognition (Option Nat)
  | 0, _, _, _ => throw .outOfFuel
  | fuel + 1, front, pieces, place => do
    match ← fitAll fuel (front ++ pieces) place with
    | some stop => fitMany fuel front pieces stop
    | none => return some place

end

end DocExamples.Script.Grammar
