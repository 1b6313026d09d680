import DocExamples.Script.Explanation
import DocExamples.Script.Syntax

/-!
Reading scripts.

An expression is read by a machine that keeps a stack of the brackets that are open and of the
operators whose right operand is not yet complete.  Each token either starts an operand or follows
one.  A logical line is cut into statements at its semicolons, and a script is read line by line.  A
script that cannot be read so is explained by the grammar.
-/

namespace DocExamples.Script

/-! ### Expressions -/

/-- What is open around the operand being read; lists have the last item first. -/
inductive Frame where
  | unary (op : UnaryOp)
  | binary (op : BinaryOp) (left : Expr)
  /-- A chain of comparisons whose last operand is being read. -/
  | compare (first : Expr) (rest : List (CompareOp × Expr)) (op : CompareOp)
  | logic (op : LogicOp) (operands : List Expr)
  /-- An expression without brackets, which a comma makes a tuple. -/
  | bare (items : List Expr) (comma : Bool)
  | paren (items : List Expr) (comma : Bool)
  | list (items : List Expr)
  /-- A dictionary, and the key whose value is being read. -/
  | dict (entries : List (Expr × Expr)) (key : Option Expr)
  | call (f : Expr) (arguments : List Expr)
  | index (e : Expr) (items : List Expr) (comma : Bool)

/-- What an expression is read up to. -/
structure Reading where
  stack : List Frame
  /-- The operand that was read, if the next token follows one. -/
  operand : Option Expr
  /-- The operand is a string that a further string joins. -/
  literal : Bool

namespace Reading

/-- Nothing was read yet of an expression that may be a tuple without parentheses. -/
def initial : Reading := ⟨[.bare [] false], none, false⟩

/-- Nothing was read yet of an expression that is no such tuple. -/
def initialSingle : Reading := ⟨[], none, false⟩

/-- Read on behind an operator or a bracket. -/
def opened (f : Frame) (stack : List Frame) : Reading := ⟨f :: stack, none, false⟩

/-- Read on behind an operand. -/
def closed (e : Expr) (stack : List Frame) : Reading := ⟨stack, some e, false⟩

/-- The operand that a word stands for. -/
def ofWord? (s : String) : Option Expr :=
  if s = "None" then some .none
  else if s = "True" then some (.bool true)
  else if s = "False" then some (.bool false)
  else if reservedWords.contains s then none
  else some (.name s)

/-- The operand is complete as far as operators of at least this strength stand before it. -/
def collapse (strength : Nat) (e : Expr) : List Frame → Expr × List Frame
  | .unary op :: rest =>
    if strength ≤ op.strength then collapse strength (.unary op e) rest else (e, .unary op :: rest)
  | .binary op left :: rest =>
    if strength ≤ op.strength then collapse strength (.binary op left e) rest
    else (e, .binary op left :: rest)
  | .compare first chain op :: rest =>
    if strength ≤ Strength.comparison then
      collapse strength (.compare first (chain ++ [(op, e)])) rest
    else (e, .compare first chain op :: rest)
  | .logic op operands :: rest =>
    if strength ≤ op.strength then collapse strength (.logic op (e :: operands).reverse) rest
    else (e, .logic op operands :: rest)
  | stack => (e, stack)

/-- An operand after `not` may not belong to a stronger operator. -/
def allowsNot : List Frame → Bool
  | .unary op :: _ => op = .not
  | .binary .. :: _ => false
  | .compare .. :: _ => false
  | _ => true

/-- One item stands for itself; a comma makes it a tuple. -/
def grouped (items : List Expr) (comma : Bool) : Expr :=
  match items, comma with
  | [e], false => e
  | _, _ => .tuple items.reverse

/-- Close the innermost bracket; `last` is the operand in front of the closing bracket. -/
def close (closing : String) (last : Option Expr) : List Frame → Option Reading
  | .paren items comma :: rest =>
    match closing, last with
    | ")", some e => some (closed (grouped (e :: items) comma) rest)
    | ")", none =>
      if comma ∨ items.isEmpty then some (closed (.tuple items.reverse) rest) else none
    | _, _ => none
  | .list items :: rest =>
    if closing = "]" then some (closed (.list (last.toList ++ items).reverse) rest) else none
  | .call f arguments :: rest =>
    if closing = ")" then some (closed (.call f (last.toList ++ arguments).reverse) rest) else none
  | .index e items comma :: rest =>
    match closing, last with
    | "]", some position => some (closed (.index e (grouped (position :: items) comma)) rest)
    | "]", none => if comma then some (closed (.index e (.tuple items.reverse)) rest) else none
    | _, _ => none
  | .dict entries key :: rest =>
    if closing = "\x7d" then
      match key, last with
      | some k, some v => some (closed (.dict ((k, v) :: entries).reverse) rest)
      | none, none => some (closed (.dict entries.reverse) rest)
      | _, _ => none
    else none
  | _ => none

/-- Read a comma behind an operand that is complete. -/
def comma (e : Expr) : List Frame → Option Reading
  | .bare items _ :: rest => some (opened (.bare (e :: items) true) rest)
  | .paren items _ :: rest => some (opened (.paren (e :: items) true) rest)
  | .list items :: rest => some (opened (.list (e :: items)) rest)
  | .call f arguments :: rest => some (opened (.call f (e :: arguments)) rest)
  | .index base items _ :: rest => some (opened (.index base (e :: items) true) rest)
  | .dict entries (some key) :: rest => some (opened (.dict ((key, e) :: entries) none) rest)
  | _ => none

/-- Read a token where an operand must start. -/
def startOperand (stack : List Frame) : Token → Option Reading
  | .int n => some (closed (.int n) stack)
  | .str s => some ⟨stack, some (.str s), true⟩
  | .name "not" => if allowsNot stack then some (opened (.unary .not) stack) else none
  | .name s => (ofWord? s).map (closed · stack)
  | .mark "-" => some (opened (.unary .minus) stack)
  | .mark "+" => some (opened (.unary .plus) stack)
  | .mark "(" => some (opened (.paren [] false) stack)
  | .mark "[" => some (opened (.list []) stack)
  | .mark "\x7b" => some (opened (.dict [] none) stack)
  | .mark s => close s none stack
  | _ => none

/-- Read an operator of `and` or `or` behind an operand. -/
def logic (op : LogicOp) (stack : List Frame) (e : Expr) : Reading :=
  let (e, stack) := collapse (op.strength + 1) e stack
  match stack with
  | .logic op' operands :: rest =>
    if op' = op then opened (.logic op (e :: operands)) rest else opened (.logic op [e]) stack
  | _ => opened (.logic op [e]) stack

/-- Read a comparison behind an operand. -/
def comparison (op : CompareOp) (stack : List Frame) (e : Expr) : Reading :=
  let (e, stack) := collapse (Strength.comparison + 1) e stack
  match stack with
  | .compare first chain op' :: rest => opened (.compare first (chain ++ [(op', e)]) op) rest
  | _ => opened (.compare e [] op) stack

/-- Read a mark behind an operand. -/
def followMark (stack : List Frame) (e : Expr) (s : String) : Option Reading :=
  match BinaryOp.ofText? s, CompareOp.ofText? s with
  | some op, _ =>
    let (e, stack) := collapse op.strength e stack
    some (opened (.binary op e) stack)
  | none, some op => some (comparison op stack e)
  | none, none =>
    if s = "(" then some (opened (.call e []) stack)
    else if s = "[" then some (opened (.index e [] false) stack)
    else
      let (e, stack) := collapse 0 e stack
      if s = "," then comma e stack
      else if s = ":" then
        match stack with
        | .dict entries none :: rest => some (opened (.dict entries (some e)) rest)
        | _ => none
      else close s (some e) stack

/-- Read one token. -/
def step (r : Reading) (t : Token) : Option Reading :=
  match r.operand with
  | none => startOperand r.stack t
  | some e =>
    match t with
    | .name "and" => some (logic .and r.stack e)
    | .name "or" => some (logic .or r.stack e)
    | .mark s => followMark r.stack e s
    | .str s =>
      match e with
      | .str first => if r.literal then some ⟨r.stack, some (.str (first ++ s)), true⟩ else none
      | _ => none
    | _ => none

/-- The expression, if it is complete. -/
def finish (r : Reading) : Option Expr :=
  match r.operand with
  | some e =>
    match collapse 0 e r.stack with
    | (e, [.bare items comma]) => some (grouped (e :: items) comma)
    | (e, []) => some e
    | _ => none
  | none =>
    match r.stack with
    | [.bare items true] => some (.tuple items.reverse)
    | _ => none

/-- The expression that tokens write. -/
def all (r : Reading) (tokens : List Token) : Option Expr := do (← tokens.foldlM step r).finish

end Reading

/-! ### Statements -/

/-- The head of a statement, in front of its expression. -/
inductive Head where
  | expr
  | assign (targets : List String)
  | update (target : String) (op : BinaryOp)
  | raise
deriving DecidableEq, Repr

/-- The names in front of the first assignment marks, and the tokens behind. -/
def takeTargets : List Token → List String × List Token
  | .name s :: .mark "=" :: rest =>
    if reservedWords.contains s then ([], .name s :: .mark "=" :: rest)
    else
      let (targets, behind) := takeTargets rest
      (s :: targets, behind)
  | tokens => ([], tokens)

/-- The head of a statement, and the tokens of its expression. -/
def takeHead (tokens : List Token) : Head × List Token :=
  match tokens with
  | .name "raise" :: rest => (.raise, rest)
  | .name s :: .mark m :: rest =>
    match reservedWords.contains s, BinaryOp.ofUpdate? m with
    | true, _ => (.expr, tokens)
    | false, some op => (.update s op, rest)
    | false, none =>
      match takeTargets tokens with
      | ([], _) => (.expr, tokens)
      | (targets, behind) => (.assign targets, behind)
  | _ => (.expr, tokens)

/-- The statement of a head and its expression. -/
def Head.statement (e : Expr) : Head → Stmt
  | .expr => .expr e
  | .assign targets => .assign targets e
  | .update target op => .update target op e
  | .raise => .raise (some e)

/-- A statement of fixed words. -/
def fixedStatement? (tokens : List Token) : Option Stmt :=
  match tokens with
  | [.name "pass"] => some .pass
  | [.name "raise"] => some (.raise none)
  | [.name "while", .name "True", .mark ":", .name "pass"] => some .forever
  | [.name "import", .name "os"] => some .importSystem
  | [.name "os", .mark ".", .name "_exit", .mark "(", .int n, .mark ")"] => some (.exit n)
  | _ => none

/-- The statement that tokens write. -/
def readStatement (tokens : List Token) : Option Stmt :=
  match fixedStatement? tokens with
  | some s => some s
  | none => do
    let (head, behind) := takeHead tokens
    let start := if head = .raise then Reading.initialSingle else Reading.initial
    return head.statement (← start.all behind)

/-! ### Places -/

/-- The place where something starts and the place behind it. -/
structure Extent where
  start : Position
  stop : Position
deriving DecidableEq, Repr

/-- The extent of some tokens. -/
def Extent.ofTokens : List Placed → Extent
  | [] => ⟨⟨1, 0⟩, ⟨1, 0⟩⟩
  | t :: rest => ⟨t.start, (rest.getLast?.getD t).stop⟩

/-- A statement and where it stands. -/
structure PlacedStmt where
  stmt : Stmt
  extent : Extent
  /-- The extent without the parentheses around it that mean nothing. -/
  core : Extent
  /-- Where `debugName` stands in it for the first time. -/
  debugAt : Option Position
deriving Repr

/-- The statement that tokens write, and where it stands. -/
def readPlaced (tokens : List Placed) : Option PlacedStmt := do
  let stmt ← readStatement (tokens.map (·.token))
  return {
    stmt := stmt
    extent := .ofTokens tokens
    core := .ofTokens (Grammar.withoutGrouping tokens.length tokens)
    debugAt := (tokens.find? (·.token = .name debugName)).map (·.start) }

/-! ### Scripts -/

/-- The tokens in front of each semicolon, and the tokens behind the last one. -/
def cutStatements : List Placed → List (List Placed) × List Placed
  | [] => ([], [])
  | t :: rest =>
    let (pieces, last) := cutStatements rest
    if t.token = .mark ";" then ([] :: pieces, last)
    else
      match pieces with
      | [] => ([], t :: last)
      | tokens :: more => ((t :: tokens) :: more, last)

/-- The statements of a logical line; nothing needs to stand behind the last semicolon. -/
def readLine (l : LogicalLine) : Option (List PlacedStmt) :=
  if l.depth ≠ {} then none
  else
    let (pieces, last) := cutStatements l.tokens
    (if last.isEmpty then pieces else pieces ++ [last]).mapM readPlaced

/-- The statements of logical lines. -/
def readLines (lines : List LogicalLine) : Option (List PlacedStmt) := do
  return (← lines.mapM readLine).flatten

/-- The statements of a script. -/
def parse (source : String) : Except ParseFault (List PlacedStmt) :=
  let lexer := tokenize source
  match if lexer.fault.isSome then none else readLines lexer.lines.reverse with
  | some statements => .ok statements
  | none => .error (explain (.ofLexer lexer))

end DocExamples.Script
