import DocExamples.Value.Order

/-!
Parts of values.

Texts, lists and tuples have items at positions, which are counted from the end if they are
negative; dictionaries have values under keys.
-/

namespace DocExamples.Value

/-- The number is too large to count or to find items. -/
def exceedsIndex (n : Int) : Bool := 0x8000000000000000 ≤ n || n < -0x8000000000000000

/-- The complaint about such a number. -/
def exceedsIndexMessage : String := "cannot fit 'int' into an index-sized integer"

/-- The item at a position, counted from the end if it is negative. -/
def itemAt? {α : Type} (items : List α) (n : Int) : Option α :=
  let position := if n < 0 then n + items.length else n
  if position < 0 then Option.none else items[position.toNat]?

/-- The item of a value at a position. -/
def itemOf {α : Type} (h : Heap) (v position : Value) (items : List α) : Except Raised α :=
  let what := v.typeName h
  let what := if v.kind h = .str then "string" else what
  match position.int? with
  | Option.none =>
    if v.kind h = .str then
      typeError ("string indices must be integers, not " ++ Text.quoted (position.typeName h))
    else
      typeError (v.typeName h ++ " indices must be integers or slices, not " ++ position.typeName h)
  | some n =>
    if exceedsIndex n then .error (.builtin "IndexError" exceedsIndexMessage)
    else
      match itemAt? items n with
      | some item => .ok item
      | Option.none => .error (.builtin "IndexError" (what ++ " index out of range"))

/-- The exception for a key that a dictionary does not have. -/
def missingKey (h : Heap) (key : Value) : Raised :=
  match key.shown h with
  | .ok text => .builtin "KeyError" text
  | .error e => e

/-- The part of a value at a position, or under a key. -/
def index (h : Heap) (v position : Value) : Except Raised Value :=
  match v, h.contents? v with
  | .str s, _ => do return .str (← itemOf h v position s.toList).toString
  | _, some (.list items) | _, some (.tuple items) => itemOf h v position items
  | _, some (.dict entries) => do
    checkKey h position
    match ← lookup (equal h) position entries with
    | some w => return w
    | Option.none => throw (missingKey h position)
  | .type name, _ => typeError ("type " ++ Text.quoted name ++ " is not subscriptable")
  | _, _ => typeError (Text.quoted (v.typeName h) ++ " object is not subscriptable")

end DocExamples.Value
