import DocExamples.Script.Syntax
import DocExamples.Value.Equality

/-!
The order of values.

Numbers and texts are ordered among themselves; lists and tuples are ordered as their first items
are that differ, or else as their lengths are.
-/

namespace DocExamples.Value

open Script

/-- An error of a type. -/
def typeError {α : Type} (message : String) : Except Raised α :=
  .error (.builtin "TypeError" message)

/-- The whole number that a value counts as. -/
def int? : Value → Option Int
  | .int n => some n
  | .bool b => some (if b then 1 else 0)
  | _ => Option.none

/-- The complaint that two values have no order. -/
def unordered {α : Type} (h : Heap) (symbol : String) (v w : Value) : Except Raised α :=
  typeError (Text.quoted symbol ++ " not supported between instances of "
    ++ Text.quoted (v.typeName h) ++ " and " ++ Text.quoted (w.typeName h))

/-- The first two items that differ; if there are none, the rests of both lists. -/
def firstDifference (h : Heap) :
    List Value → List Value → Except Raised (Option (Value × Value) × Ordering)
  | [], [] => .ok (Option.none, .eq)
  | [], _ :: _ => .ok (Option.none, .lt)
  | _ :: _, [] => .ok (Option.none, .gt)
  | v :: vs, w :: ws => do
    if ← v.equal h w then firstDifference h vs ws else return (some (v, w), .eq)

/-- The order of two values, for a comparison that is written as given. -/
def orderWithin (h : Heap) (symbol : String) : Nat → Value → Value → Except Raised Ordering
  | 0, _, _ => .error (tooDeep "in comparison")
  | fuel + 1, v, w => do
    let orderItems (xs ys : List Value) : Except Raised Ordering := do
      match ← firstDifference h xs ys with
      | (some (v, w), _) => orderWithin h symbol fuel v w
      | (Option.none, lengths) => return lengths
    match v, w, h.contents? v, h.contents? w with
    | .str s, .str t, _, _ => return compare s t
    | _, _, some (.list xs), some (.list ys) => orderItems xs ys
    | _, _, some (.tuple xs), some (.tuple ys) => orderItems xs ys
    | v, w, _, _ =>
      match v.int?, w.int? with
      | some m, some n => return compare m n
      | _, _ => unordered h symbol v w

/-- The truth of a comparison. -/
def compared (h : Heap) (op : CompareOp) (v w : Value) : Except Raised Bool :=
  let order := orderWithin h op.text deepest v w
  match op with
  | .eq => v.equal h w
  | .ne => do return !(← v.equal h w)
  | .lt => do return (← order) == .lt
  | .le => do return (← order) != .gt
  | .gt => do return (← order) == .gt
  | .ge => do return (← order) != .lt

/-! ### Sorting -/

/-- The first value is less than the second one. -/
def less (h : Heap) (v w : Value) : Except Raised Bool := compared h .lt v w

/-- How many items go on falling, or not falling, behind an item. -/
def runLength (h : Heap) (falling : Bool) (v : Value) : List Value → Except Raised Nat
  | [] => .ok 0
  | w :: rest => do
    if (← less h w v) = falling then return (← runLength h falling w rest) + 1 else return 0

/-- The place behind all items that `v` is not less than, which lies from `low` to `high`. -/
def placeFor (h : Heap) (v : Value) (items : Array Value) (low high : Nat) :
    Except Raised Nat := do
  if low < high then
    let middle := low + (high - low) / 2
    if ← less h v (items.getD middle .none) then placeFor h v items low middle
    else placeFor h v items (middle + 1) high
  else return low
termination_by high - low

/-- Put an item behind all items that it is not less than. -/
def insertSorted (h : Heap) (items : Array Value) (v : Value) : Except Raised (Array Value) := do
  return items.insertIdxIfInBounds (← placeFor h v items 0 items.size) v

/-- The items from the least one on; equal ones keep their order.  Items at the front that are in
order, or in the opposite order, are not looked at again. -/
def sorted (h : Heap) : List Value → Except Raised (List Value)
  | v :: w :: rest => do
    let falling ← less h w v
    let length ← runLength h falling w rest
    let front := v :: w :: rest.take length
    let front := (if falling then front.reverse else front).toArray
    return (← (rest.drop length).foldlM (insertSorted h) front).toList
  | items => .ok items

end DocExamples.Value
