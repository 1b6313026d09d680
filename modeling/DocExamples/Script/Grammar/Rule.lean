import DocExamples.Script.Token

/-!
The form of grammars.

A grammar gives every rule its alternatives, which are tried in order; the first one that fits
decides.  An alternative is a sequence of pieces.  Some alternatives fit what is wrong and come with
a complaint: they explain why a script cannot be read.
-/

namespace DocExamples.Script

/-- The rules of the grammar. -/
inductive Rule where
  -- scripts and statements
  | file | statements | statement | simpleStatements | simpleStatement | compoundStatement
  | assignment | annotatedValue | augmentation | returnStatement | raiseStatement
  | globalStatement | nonlocalStatement | deleteStatement | yieldStatement | assertStatement
  | importStatement | importName | importFrom | importTargets | importNames | importedName
  | dottedNames | dottedAlias | dottedName
  -- blocks
  | block | decorators | classDefinition | classBody | functionDefinition | functionBody
  | parameters | parameterList | slashPlain | slashDefault | starParameters | keywordParameters
  | plainParameter | starAnnotated | defaultParameter | anyParameter | parameter | parameterType
  | default | parameterEnd
  | ifStatement | elifStatement | elseBlock | whileStatement | forStatement | withStatement
  | withItem | tryStatement | exceptBlock | exceptStarBlock | finallyBlock
  | matchStatement | matchSubject | caseBlock | casePattern
  -- expressions
  | expressions | expression | plainExpression | yieldExpression | starExpressions | starExpression
  | starNamedExpressions | starNamedExpression | assignmentExpression | namedExpression
  | disjunction | conjunction | inversion | comparison | comparisonTail
  | bitOr | bitXor | bitAnd | shift | sum | term | factor | power | awaited | primary
  | slices | slice | atom | parenthesized
  | lambda | lambdaParameters | lambdaParameterList | lambdaSlashPlain | lambdaSlashDefault
  | lambdaStar | lambdaKeywords | lambdaPlain | lambdaDefault | lambdaAny | lambdaEnd
  | strings | listDisplay | tupleDisplay | setDisplay | dictDisplay | dictItems | dictItem
  | keyValue | comprehensionClauses | comprehensionClause | listComprehension | setComprehension
  | generator | dictComprehension
  | arguments | argumentList | keywordArguments | starredExpression | keywordOrStarred
  | keywordOrDoubleStarred
  -- targets
  | starTargets | starTargetList | starTargetTuple | starTarget | plainTarget | starAtom
  | singleTarget | partTarget | targetPrimary | targetLookahead | deleteTargets | deleteTarget
  | deleteAtom
  -- what is wrong
  | badArguments | badKeyword | badLegacyExpression | badExpression
  | badNamedExpression | badAssignment | badAnnotationTarget | badDelete | badBlock
  | badComprehension | badDictComprehension | badParameters | badParametersHelper | badDefault
  | badStarParameters | badKeywordParameters | badLambdaParameters | badLambdaHelper
  | badLambdaStar | badLambdaKeywords | badWithItem | badForTarget | badGroup | badImportTargets
  | badWith | badWithBlock | badTry | badExcept | badFinally | badExceptBlock | badExceptStarBlock
  | badMatch | badCase | badIf | badElif | badElse | badWhile | badFor | badFunction | badClass
  | badDictItems | badKeyValue
deriving DecidableEq, Hashable, Repr

/-- The classes of tokens. -/
inductive TokenClass where
  | name | number
  /-- A text of any kind. -/
  | string
  /-- A text of characters. -/
  | plainString
  | bytes
  | newline | indent | dedent | finish
  /-- A name that a word which is reserved in some places starts with. -/
  | softKeyword
deriving DecidableEq, Repr

/-- The words that are reserved in some places only. -/
def softKeywords : List String := ["_", "case", "match"]

/-- The class of a token. -/
def TokenClass.holds (c : TokenClass) (t : Token) : Bool :=
  match c, t with
  | .name, .name s => !reservedWords.contains s
  | .softKeyword, .name s => softKeywords.any fun w => s.toList.isPrefixOf w.toList
  | .number, .int _ | .number, .hugeInt _ | .number, .fraction => true
  | .string, .str _ | .string, .template | .string, .bytes => true
  | .plainString, .str _ | .plainString, .template | .bytes, .bytes => true
  | .newline, .newline | .indent, .indent | .dedent, .dedent | .finish, .finish => true
  | _, _ => false

namespace Grammar

/-- A piece of a sequence. -/
inductive Piece where
  /-- The mark or word that is written so. -/
  | text (s : String)
  | token (c : TokenClass)
  | rule (r : Rule)
  /-- One of some sequences. -/
  | either (sequences : List (List Piece))
  | optional (pieces : List Piece)
  | many (pieces : List Piece)
  | atLeastOne (pieces : List Piece)
  /-- One or more, with a mark between them. -/
  | separated (separator : String) (pieces : List Piece)
  /-- Fits without being read. -/
  | ahead (pieces : List Piece)
  /-- Does not fit. -/
  | notAhead (pieces : List Piece)
  /-- Behind it no other alternative is tried. -/
  | commit
  /-- The mark that is written so; any other token is complained about. -/
  | demand (s : String)
deriving Repr

instance : Coe String Piece := ⟨.text⟩
instance : Coe TokenClass Piece := ⟨.token⟩
instance : Coe Rule Piece := ⟨.rule⟩

/-- What targets are used for. -/
inductive TargetUse where
  | assignment | loop | deletion
deriving DecidableEq, Repr

/-- When there is reason for a complaint. -/
inductive Reason where
  | always
  /-- A bracket is open behind the last token, and the first word is no former statement. -/
  | insideBrackets
  /-- The first piece holds several arguments without names. -/
  | severalArguments
  /-- A part of a piece cannot be a target; the complaint is about that part. -/
  | badTarget (piece : Nat) (use : TargetUse)
  | never
deriving DecidableEq, Repr

/-- How a complaint is worded. -/
inductive Wording where
  | text (s : String)
  /-- The line of the first piece follows. -/
  | withLine (s : String)
  /-- What the wrong part is stands in between. -/
  | naming (before after : String)
  /-- A plain argument stands behind a named one. -/
  | argumentOrder
deriving DecidableEq, Repr

instance : Coe String Wording := ⟨.text⟩

/-- What is said about a sequence that should not be there. -/
structure Complaint where
  wording : Wording
  /-- The piece that the complaint is about; otherwise it is about the last token read. -/
  piece : Option Nat := none
  /-- The complaint is about the depth of a line. -/
  aboutDepth : Bool := false
  reason : Reason := .always
deriving DecidableEq, Repr

/-- An alternative of a rule. -/
structure Alternative where
  pieces : List Piece
  /-- Tried only while an explanation is sought. -/
  explaining : Bool := false
  /-- What is said if the pieces fit. -/
  complaint : Option Complaint := none
deriving Repr

/-- Pieces as they should be. -/
def fits (pieces : List Piece) : Alternative := { pieces := pieces }

/-- A rule that is tried only while an explanation is sought. -/
def explaining (r : Rule) : Alternative := { pieces := [r], explaining := true }

/-- Pieces that are complained about; the complaint is about one of them. -/
def wrong (pieces : List Piece) (piece : Nat) (wording : Wording) : Alternative :=
  { pieces := pieces, complaint := some { wording := wording, piece := some piece } }

/-- Pieces that are complained about, with the line of the last token read. -/
def wrongHere (pieces : List Piece) (wording : Wording) : Alternative :=
  { pieces := pieces, complaint := some { wording := wording } }

/-- Pieces that are complained about for a reason; the complaint is about the first one. -/
def wrongIf (reason : Reason) (pieces : List Piece) (wording : Wording) : Alternative :=
  { pieces := pieces
    complaint := some { wording := wording, piece := some 0, reason := reason } }

/-- A head of a block that ends the line without a colon. -/
def colonMissing (pieces : List Piece) : Alternative :=
  wrongHere (pieces ++ [.token .newline]) "expected ':'"

/-- A head of a block without the block. -/
def blockMissing (pieces : List Piece) (head : String) : Alternative :=
  { pieces := pieces ++ [.text ":", .token .newline, .notAhead [.token .indent]]
    complaint :=
      some
        { wording := .withLine ("expected an indented block after " ++ head ++ " on line ")
          aboutDepth := true } }

end Grammar

end DocExamples.Script
