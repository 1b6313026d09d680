import DocExamples.Json

/-!
Reading JSON.

Two machines read a text.  The first one splits the characters into tokens; the second one builds
the value, with a stack of the arrays and objects that are still open.  Both only ever look at one
item, so a text of any depth is read in one pass.
-/

namespace DocExamples.Json

/-! ### Tokens -/

/-- A token of a JSON text. -/
inductive Token where
  /-- A bracket, a brace, a colon or a comma. -/
  | mark (c : Char)
  | str (s : String)
  /-- A number or one of the words. -/
  | word (s : String)
deriving DecidableEq, Repr

/-- What the tokenizer is in the middle of; collected characters have the last one first. -/
inductive Lexing where
  | between
  | word (read : List Char)
  | str (read : List Char)
  /-- Behind a backslash. -/
  | escape (read : List Char)
  /-- In a code unit of which `left` digits are missing; `high` is a first surrogate before it. -/
  | unit (read : List Char) (high : Option Nat) (left : Nat) (value : Nat)
  /-- Behind a first surrogate, of which the second one must follow. -/
  | surrogate (read : List Char) (high : Nat)
  /-- Behind a first surrogate and a backslash. -/
  | surrogateEscape (read : List Char) (high : Nat)
  | failed
deriving DecidableEq, Repr

/-- The character that a one-letter escape stands for. -/
def escaped? : Char → Option Char
  | '"' => some '"'
  | '\\' => some '\\'
  | '/' => some '/'
  | 'b' => some '\x08'
  | 'f' => some '\x0c'
  | 'n' => some '\n'
  | 'r' => some '\r'
  | 't' => some '\t'
  | _ => none

/-- The value of a hexadecimal digit. -/
def hexValue? (c : Char) : Option Nat :=
  if '0' ≤ c ∧ c ≤ '9' then some (c.toNat - '0'.toNat)
  else if 'a' ≤ c ∧ c ≤ 'f' then some (c.toNat - 'a'.toNat + 10)
  else if 'A' ≤ c ∧ c ≤ 'F' then some (c.toNat - 'A'.toNat + 10)
  else none

/-- Go on with a finished code unit. -/
def Lexing.ofUnit (read : List Char) (high : Option Nat) (value : Nat) : Lexing :=
  match high with
  | some h =>
    if 0xDC00 ≤ value ∧ value < 0xE000 then
      .str (Char.ofNat (0x10000 + (h - 0xD800) * 0x400 + (value - 0xDC00)) :: read)
    else .failed
  | none =>
    if 0xD800 ≤ value ∧ value < 0xDC00 then .surrogate read value
    else if 0xDC00 ≤ value ∧ value < 0xE000 then .failed
    else .str (Char.ofNat value :: read)

/-- Read a character between tokens. -/
def startToken (c : Char) : List Token × Lexing :=
  if c = ' ' ∨ c = '\n' ∨ c = '\r' ∨ c = '\t' then ([], .between)
  else if c ∈ ['\x7b', '\x7d', '[', ']', ':', ','] then ([.mark c], .between)
  else if c = '"' then ([], .str [])
  else ([], .word [c])

/-- A character that a number or a word goes on with. -/
def isWordPart (c : Char) : Bool := c.isAlphanum || c = '+' || c = '-' || c = '.'

/-- Read one character. -/
def lexStep : Lexing → Char → List Token × Lexing
  | .between, c => startToken c
  | .word read, c =>
    if isWordPart c then ([], .word (c :: read))
    else
      let (tokens, mode) := startToken c
      (.word (.ofList read.reverse) :: tokens, mode)
  | .str read, c =>
    if c = '"' then ([.str (.ofList read.reverse)], .between)
    else if c = '\\' then ([], .escape read)
    else ([], .str (c :: read))
  | .escape read, c =>
    if c = 'u' then ([], .unit read none 4 0)
    else
      match escaped? c with
      | some e => ([], .str (e :: read))
      | none => ([], .failed)
  | .unit read high left value, c =>
    match hexValue? c with
    | none => ([], .failed)
    | some v =>
      let value := value * 16 + v
      if left ≤ 1 then ([], .ofUnit read high value) else ([], .unit read high (left - 1) value)
  | .surrogate read high, c =>
    if c = '\\' then ([], .surrogateEscape read high) else ([], .failed)
  | .surrogateEscape read high, c =>
    if c = 'u' then ([], .unit read (some high) 4 0) else ([], .failed)
  | .failed, _ => ([], .failed)

/-- The tokens of a text, or nothing if it ends inside of one. -/
def tokens? (s : String) : Option (List Token) :=
  let (done, mode) := s.toList.foldl
    (fun (p : List Token × Lexing) c =>
      let (more, mode) := lexStep p.2 c
      (more.reverse ++ p.1, mode))
    ([], .between)
  match mode with
  | .between => some done.reverse
  | .word read => some (.word (.ofList read.reverse) :: done).reverse
  | _ => none

/-! ### Values -/

/-- The whole number that a run of ASCII digits writes. -/
def natOfDigits (cs : List Char) : Nat :=
  cs.foldl (fun n c => n * 10 + (c.toNat - '0'.toNat)) 0

/-- The value that a number or a word writes. -/
def ofWord? (s : String) : Option Json :=
  match s.toList with
  | ['n', 'u', 'l', 'l'] => some .null
  | ['t', 'r', 'u', 'e'] => some (.bool true)
  | ['f', 'a', 'l', 's', 'e'] => some (.bool false)
  | cs =>
    let (sign, digits) : Int × List Char :=
      match cs with
      | '-' :: rest => (-1, rest)
      | _ => (1, cs)
    if !digits.isEmpty && digits.all Char.isDigit then some (.int (sign * natOfDigits digits))
    else if digits.head?.any Char.isDigit then some (.float s)
    else none

/-- An array or object that is still open; what it holds so far has the last item first. -/
inductive Open where
  | arr (items : List Json)
  | obj (members : List (String × Json))
  /-- An object whose member `key` is being read. -/
  | entry (members : List (String × Json)) (key : String)

/-- What may come next. -/
inductive Next where
  | value
  /-- A value, or the end of an array without items. -/
  | firstItem
  /-- A key, or the end of an object without members. -/
  | firstKey
  | key
  | colon
  /-- The end of the innermost open value, or its next item; at the outermost level nothing. -/
  | after (v : Json)

/-- What was read so far. -/
structure Building where
  stack : List Open
  next : Next

/-- Read a token where a value must start. -/
def startValue (stack : List Open) : Token → Option Building
  | .mark '[' => some ⟨.arr [] :: stack, .firstItem⟩
  | .mark '\x7b' => some ⟨.obj [] :: stack, .firstKey⟩
  | .mark _ => none
  | .str s => some ⟨stack, .after (.str s)⟩
  | .word w => (ofWord? w).map fun v => ⟨stack, .after v⟩

/-- Read a token where a key must stand. -/
def readKey (stack : List Open) : Token → Option Building
  | .str key =>
    match stack with
    | .obj members :: rest => some ⟨.entry members key :: rest, .colon⟩
    | _ => none
  | _ => none

/-- Read one token. -/
def build (b : Building) (t : Token) : Option Building :=
  match b.next, t with
  | .value, t => startValue b.stack t
  | .firstItem, .mark ']' =>
    match b.stack with
    | _ :: rest => some ⟨rest, .after (.arr [])⟩
    | [] => none
  | .firstItem, t => startValue b.stack t
  | .firstKey, .mark '\x7d' =>
    match b.stack with
    | _ :: rest => some ⟨rest, .after (.obj [])⟩
    | [] => none
  | .firstKey, t => readKey b.stack t
  | .key, t => readKey b.stack t
  | .colon, .mark ':' => some ⟨b.stack, .value⟩
  | .colon, _ => none
  | .after v, .mark ',' =>
    match b.stack with
    | .arr items :: rest => some ⟨.arr (v :: items) :: rest, .value⟩
    | .entry members key :: rest => some ⟨.obj ((key, v) :: members) :: rest, .key⟩
    | _ => none
  | .after v, .mark ']' =>
    match b.stack with
    | .arr items :: rest => some ⟨rest, .after (.arr (v :: items).reverse)⟩
    | _ => none
  | .after v, .mark '\x7d' =>
    match b.stack with
    | .entry members key :: rest =>
      some ⟨rest, .after (.obj (putAll [] ((key, v) :: members).reverse))⟩
    | _ => none
  | .after _, _ => none

/-- The value that a text writes; of two members of one name the later one counts. -/
def parse? (s : String) : Option Json := do
  let done ← (← tokens? s).foldlM build ⟨[], .value⟩
  match done with
  | ⟨[], .after v⟩ => some v
  | _ => none

end DocExamples.Json
