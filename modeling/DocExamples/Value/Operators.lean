import DocExamples.Value.Format

/-!
Operators on values.

Truth values count as zero and one.  Texts, lists and tuples are joined to their own kind and
repeated by whole numbers; the result is a new object that holds the same items.
-/

namespace DocExamples

/-- Work on values, which may make new objects. -/
abbrev Work := ExceptT Raised (StateM Heap)

/-- The outcome that follows from what the objects hold. -/
def Work.read {α : Type} (f : Heap → Except Raised α) : Work α := ExceptT.mk do return f (← get)

/-- A new object. -/
def Work.allocate (c : Contents) : Work Value := modifyGet (·.allocate c)

namespace Value

open Script

/-! ### Items -/

/-- The value counts as true: it is neither none, nor false, nor zero, nor empty. -/
def truth (h : Heap) : Value → Bool
  | .none => false
  | .bool b => b
  | .int n => n ≠ 0
  | .float text => !(Text.Binary64.ofText text).equal (.ofInt 0)
  | .str s => s ≠ ""
  | .object n =>
    match h.contents n with
    | .list items | .tuple items => !items.isEmpty
    | .dict entries => !entries.isEmpty
  | _ => true

/-- The items of a value that has items; a dictionary has its keys. -/
def items? (h : Heap) : Value → Option (List Value)
  | .str s => some (s.toList.map fun c => .str c.toString)
  | .object n =>
    match h.contents n with
    | .list items | .tuple items => some items
    | .dict entries => some (entries.map (·.1))
  | _ => Option.none

/-- The items of a value, or the complaint that it has none. -/
def items (h : Heap) (v : Value) : Except Raised (List Value) :=
  match v.items? h with
  | some items => .ok items
  | Option.none => typeError (Text.quoted (v.typeName h) ++ " object is not iterable")

/-- The number of items of a value, or the complaint that it has none. -/
def length (h : Heap) (v : Value) : Except Raised Nat :=
  match v, v.items? h with
  | .str s, _ => .ok s.length
  | _, some items => .ok items.length
  | _, Option.none =>
    typeError ("object of type " ++ Text.quoted (v.typeName h) ++ " has no len()")

/-! ### Complaints -/

/-- The complaint that an operator, written as given, does not take these operands. -/
def unsupported {α : Type} (h : Heap) (symbol : String) (v w : Value) : Except Raised α :=
  typeError ("unsupported operand type(s) for " ++ symbol ++ ": " ++ Text.quoted (v.typeName h)
    ++ " and " ++ Text.quoted (w.typeName h))

/-- The complaint that a value cannot be joined to one of another kind. -/
def cannotJoin {α : Type} (h : Heap) (v w : Value) : Except Raised α :=
  typeError ("can only concatenate " ++ v.typeName h ++ " (not \"" ++ w.typeName h ++ "\") to "
    ++ v.typeName h)

/-- The value is a text, a list or a tuple. -/
def isSequence (h : Heap) (v : Value) : Bool :=
  match v.kind h with
  | .str | .list | .tuple => true
  | _ => false

/-! ### Arithmetic -/

/-- The sum of numbers, or two values of one kind joined. -/
def add (symbol : String) (v w : Value) : Work Value := do
  let h ← get
  match v.int?, w.int? with
  | some m, some n => return .int (m + n)
  | _, _ =>
    match v, w, h.contents? v, h.contents? w with
    | .str s, .str t, _, _ => return .str (s ++ t)
    | _, _, some (.list xs), some (.list ys) => Work.allocate (.list (xs ++ ys))
    | _, _, some (.tuple xs), some (.tuple ys) => Work.allocate (.tuple (xs ++ ys))
    | _, _, _, _ =>
      Work.read fun h => if v.isSequence h then cannotJoin h v w else unsupported h symbol v w

/-- The most characters that a text may have after it was repeated. -/
def mostCharacters : Nat := Text.Binary64.powerOfTwo 28

/-- The most items that a list or tuple may have after it was repeated. -/
def mostItems : Nat := Text.Binary64.powerOfTwo 26

/-- How often something of a size is repeated, unless that is too often. -/
def repetitions (most size : Nat) (n : Int) : Except Raised Nat :=
  if exceedsIndex n then .error (.builtin "OverflowError" exceedsIndexMessage)
  else if most < size * n.toNat then .error (.builtin "MemoryError" "")
  else .ok (if size = 0 then 0 else n.toNat)

/-- A text as often as a number says. -/
def repeatText (s : String) (n : Nat) : String :=
  if n = 0 then ""
  else
    let half := repeatText s (n / 2)
    if n % 2 = 0 then half ++ half else half ++ half ++ s
termination_by n
decreasing_by omega

/-- Some items as often as a number says. -/
def repeatItems (items : List Value) (n : Nat) : List Value := (List.replicate n items).flatten

/-- A text, list or tuple as often as a number says; a negative number counts as zero. -/
def times? (n : Int) (v : Value) : Work (Option Value) := do
  let h ← get
  match v, h.contents? v with
  | .str s, _ => do
    let n ← Work.read fun _ => repetitions mostCharacters s.length n
    return some (.str (repeatText s n))
  | _, some (.list xs) => do
    let n ← Work.read fun _ => repetitions mostItems xs.length n
    return some (← Work.allocate (.list (repeatItems xs n)))
  | _, some (.tuple xs) => do
    let n ← Work.read fun _ => repetitions mostItems xs.length n
    return some (← Work.allocate (.tuple (repeatItems xs n)))
  | _, _ => return Option.none

/-- The product of numbers, or a value repeated. -/
def mul (symbol : String) (v w : Value) : Work Value := do
  let repeated (n : Int) (sequence : Value) : Work Value := do
    match ← sequence.times? n with
    | some r => return r
    | Option.none => Work.read fun h => unsupported h symbol v w
  match v.int?, w.int? with
  | some m, some n => return .int (m * n)
  | some m, Option.none => repeated m w
  | Option.none, some n => repeated n v
  | Option.none, Option.none =>
    Work.read fun h =>
      let badCount (count : Value) : Except Raised Value :=
        typeError ("can't multiply sequence by non-int of type " ++ Text.quoted (count.typeName h))
      -- a dictionary that is to be changed refuses any operand
      let refused := symbol = "*=" ∧ v.kind h = .dict
      if v.isSequence h then badCount w
      else if w.isSequence h ∧ !refused then badCount v
      else unsupported h symbol v w

/-- An operator on numbers only; with a message for a zero as the second one. -/
def arithmetic (h : Heap) (symbol : String) (zero? : Option String)
    (f : Int → Int → Except Raised Value) (v w : Value) : Except Raised Value :=
  match v.int?, w.int? with
  | some m, some n =>
    match zero? with
    | some message => if n = 0 then .error (.builtin "ZeroDivisionError" message) else f m n
    | Option.none => f m n
  | _, _ => unsupported h symbol v w

/-- The remainder of numbers, or a text filled in. -/
def mod (h : Heap) (symbol : String) (v w : Value) : Except Raised Value :=
  match v with
  | .str s => (fill h s w).map .str
  | _ =>
    arithmetic h symbol (some "integer modulo by zero") (fun m n => .ok (.int (m.fmod n))) v w

/-- The value of a binary operator that is written as given.  Quotients and remainders are rounded
down; there are no fractions. -/
def binary (op : BinaryOp) (symbol : String) (v w : Value) : Work Value :=
  match op with
  | .add => add symbol v w
  | .mul => mul symbol v w
  | .mod => Work.read fun h => mod h symbol v w
  | .sub =>
    Work.read fun h => arithmetic h symbol Option.none (fun m n => .ok (.int (m - n))) v w
  | .floorDiv =>
    Work.read fun h =>
      arithmetic h symbol (some "integer division or modulo by zero")
        (fun m n => .ok (.int (m.fdiv n))) v w
  | .div =>
    Work.read fun h =>
      arithmetic h symbol (some "division by zero")
        (fun _ _ => .error (.builtin "NotImplementedError" "fractions")) v w

/-- The value of a unary operator. -/
def unary (h : Heap) (op : UnaryOp) (v : Value) : Except Raised Value :=
  match op, v.int? with
  | .not, _ => .ok (.bool !v.truth h)
  | .minus, some n => .ok (.int (-n))
  | .plus, some n => .ok (.int n)
  | .minus, Option.none =>
    typeError ("bad operand type for unary -: " ++ Text.quoted (v.typeName h))
  | .plus, Option.none =>
    typeError ("bad operand type for unary +: " ++ Text.quoted (v.typeName h))

end Value

end DocExamples
