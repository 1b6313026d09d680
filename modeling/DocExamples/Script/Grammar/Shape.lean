import DocExamples.Script.Grammar.Rule

/-!
What the tokens of an expression write.

Complaints name what an expression is.  That is told by its tokens outside of brackets: the weakest
operator decides, or else the last bracket.
-/

namespace DocExamples.Script.Grammar

/-- What an expression is. -/
inductive Shape where
  | name | attribute | subscript | call | literal | template | constant (word : String) | ellipsis
  | tuple | list | dict | set | listComprehension | setComprehension | dictComprehension | generator
  | starred | comparison | operation | conditional | lambda | await | yield | assignment
deriving DecidableEq, Repr

/-- What complaints call an expression. -/
def Shape.text : Shape → String
  | .name => "name"
  | .attribute => "attribute"
  | .subscript => "subscript"
  | .call => "function call"
  | .literal => "literal"
  | .template => "f-string expression"
  | .constant word => word
  | .ellipsis => "ellipsis"
  | .tuple => "tuple"
  | .list => "list"
  | .dict => "dict literal"
  | .set => "set display"
  | .listComprehension => "list comprehension"
  | .setComprehension => "set comprehension"
  | .dictComprehension => "dict comprehension"
  | .generator => "generator expression"
  | .starred => "starred"
  | .comparison => "comparison"
  | .operation => "expression"
  | .conditional => "conditional expression"
  | .lambda => "lambda"
  | .await => "await expression"
  | .yield => "yield expression"
  | .assignment => "named expression"

/-! ### Tokens outside of brackets -/

/-- How a word or mark is written. -/
def written : Token → String
  | .name s => s
  | .mark s => s
  | _ => ""

/-- The token opens a bracket. -/
def opens (t : Token) : Bool := ["(", "[", "\x7b"].contains (written t)

/-- The token closes a bracket. -/
def closes (t : Token) : Bool := [")", "]", "\x7d"].contains (written t)

/-- The tokens, each with the number of brackets around it; a bracket is not around itself. -/
def levelled : Nat → List Placed → List (Nat × Placed)
  | _, [] => []
  | level, t :: rest =>
    if opens t.token then (level, t) :: levelled (level + 1) rest
    else if closes t.token then (level - 1, t) :: levelled (level - 1) rest
    else (level, t) :: levelled level rest

/-- The words and marks outside of brackets. -/
def outerWords (tokens : List Placed) : List String :=
  ((levelled 0 tokens).filter (·.1 = 0)).map fun t => written t.2.token

/-- The parts between commas that stand outside of brackets; a last comma has no part behind it. -/
def parts : List (Nat × Placed) → List (List Placed)
  | [] => []
  | (level, t) :: rest =>
    if level = 0 ∧ t.token = .mark "," then [] :: parts rest
    else
      match parts rest with
      | [] => [[t]]
      | part :: more => (t :: part) :: more

/-- The parts between commas. -/
def items (tokens : List Placed) : List (List Placed) := parts (levelled 0 tokens)

/-- What stands between the brackets that enclose all tokens, if such brackets do. -/
def enclosed? (tokens : List Placed) : Option (String × List Placed) :=
  match tokens with
  | t :: rest =>
    let closings := ((levelled 0 tokens).filter fun t => t.1 = 0 ∧ closes t.2.token).length
    let last := (rest.getLast?.map (·.token)).getD .finish
    if opens t.token ∧ closes last ∧ closings = 1 then some (written t.token, rest.dropLast)
    else none
  | [] => none

/-! ### Shapes -/

/-- The signs of comparisons. -/
def comparisonWords : List String := ["==", "!=", "<", "<=", ">", ">=", "in", "is", "not"]

/-- The signs of operators. -/
def operatorWords : List String :=
  ["|", "^", "&", "<<", ">>", "+", "-", "*", "/", "//", "%", "@", "**", "~"]

/-- What tokens between brackets are together with the brackets. -/
def Shape.ofBrackets (opening : String) (inner : List Placed) : Shape :=
  let words := outerWords inner
  if opening = "[" then if words.contains "for" then .listComprehension else .list
  else if opening = "(" then if words.contains "for" then .generator else .tuple
  else if inner.isEmpty then .dict
  else if words.contains ":" ∨ words.head? = some "**" then
    if words.contains "for" then .dictComprehension else .dict
  else if words.contains "for" then .setComprehension
  else .set

/-- What a token on its own is. -/
def Shape.ofToken : Token → Shape
  | .name s => if ["True", "False", "None"].contains s then .constant s else .name
  | .mark _ => .ellipsis
  | .template => .template
  | _ => .literal

/-- What tokens without an operator are. -/
def Shape.ofPrimary (tokens : List Placed) : Shape :=
  match enclosed? tokens, tokens with
  | some (opening, inner), _ => .ofBrackets opening inner
  | none, [t] => .ofToken t.token
  | none, _ =>
    match tokens.getLast?.map Placed.token with
    | some (.name _) => .attribute
    | some (.mark ")") => .call
    | some (.mark "]") => .subscript
    | _ => if tokens.any (·.token = .template) then .template else .literal

/-- Parentheses around a single expression, which mean nothing. -/
def grouping? (tokens : List Placed) : Option (List Placed) :=
  match enclosed? tokens with
  | some ("(", inner) =>
    let words := outerWords inner
    if inner.isEmpty ∨ words.contains "," ∨ words.contains "for" then none else some inner
  | _ => none

/-- Tokens without the parentheses around them that mean nothing, so many pairs at most. -/
def withoutGrouping : Nat → List Placed → List Placed
  | 0, tokens => tokens
  | fuel + 1, tokens =>
    match grouping? tokens with
    | some inner => withoutGrouping fuel inner
    | none => tokens

/-- What tokens write, between so many parentheses at most. -/
def Shape.ofTokens : Nat → List Placed → Shape
  | 0, _ => .operation
  | fuel + 1, tokens =>
    let words := outerWords tokens
    let has (signs : List String) : Bool := words.any signs.contains
    let first := words.head?.getD ""
    if has [","] then .tuple
    else if first = "*" then .starred
    else if first = "yield" then .yield
    else if has [":="] then .assignment
    else if first = "lambda" then .lambda
    else if has ["if"] then .conditional
    else if has ["and", "or"] ∨ first = "not" then .operation
    else if has comparisonWords then .comparison
    else if has operatorWords then .operation
    else if first = "await" then .await
    else
      match grouping? tokens with
      | some inner => Shape.ofTokens fuel inner
      | none => .ofPrimary tokens

/-- What tokens write. -/
def shapeOf (tokens : List Placed) : Shape := .ofTokens (tokens.length + 1) tokens

/-! ### Targets -/

/-- The part of an expression that cannot be a target, if there is one. -/
def badTarget? (use : TargetUse) : Nat → List Placed → Option (List Placed)
  | 0, _ => none
  | fuel + 1, tokens =>
    let each (tokens : List Placed) := (items tokens).findSome? (badTarget? use fuel)
    match shapeOf tokens, grouping? tokens, enclosed? tokens with
    | _, some inner, _ => badTarget? use fuel inner
    | .tuple, none, some (_, inner) => each inner
    | .tuple, none, none => each tokens
    | .list, _, some (_, inner) => each inner
    | .starred, _, _ => if use = .deletion then some tokens else badTarget? use fuel tokens.tail
    | .comparison, _, _ =>
      if use = .loop then
        let (left, right) :=
          (levelled 0 tokens).span fun t =>
            t.1 ≠ 0 ∨ !comparisonWords.contains (written t.2.token)
        if (right.head?.map (·.2.token)) = some (.name "in") then
          badTarget? use fuel (left.map (·.2))
        else none
      else some tokens
    | .name, _, _ | .subscript, _, _ | .attribute, _, _ => none
    | _, _, _ => some tokens

end DocExamples.Script.Grammar
