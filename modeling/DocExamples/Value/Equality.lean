import DocExamples.Value.Shown

/-!
Equality of values.

An object is equal to itself.  Numbers are equal as numbers, whatever their types, and a truth value
counts as zero or one.  Lists and tuples are equal to their own kind, item by item.  Two
dictionaries are equal if they have as many entries and each entry of the first one has an equal
entry in the second one.  Comparing two objects that hold themselves may never come to an end, which
is an error.
-/

namespace DocExamples.Value

/-- The number that a value is equal to. -/
def number? : Value → Option Text.Binary64
  | .bool b => some (.ofInt (if b then 1 else 0))
  | .int n => some (.ofInt n)
  | .float text => some (.ofText text)
  | _ => Option.none

/-- Two values that are no objects are equal. -/
def equalPlain : Value → Value → Bool
  | .none, .none => true
  | .str s, .str t => s == t
  | .function f, .function g => f == g
  | .type s, .type t => s == t
  | .foreign i _, .foreign j _ => i == j
  | .unshowable i _, .unshowable j _ => i == j
  | v, w =>
    match v.number?, w.number? with
    | some x, some y => x.equal y
    | _, _ => false

/-- Two lists of values are equal item by item. -/
def equalItems (equal : Value → Value → Except Raised Bool) :
    List Value → List Value → Except Raised Bool
  | [], [] => .ok true
  | v :: vs, w :: ws => do if ← equal v w then equalItems equal vs ws else return false
  | _, _ => .ok false

/-- The value under an equal key. -/
def lookup (equal : Value → Value → Except Raised Bool) (key : Value) :
    List (Value × Value) → Except Raised (Option Value)
  | [] => .ok Option.none
  | (k, v) :: rest => do if ← equal k key then return some v else lookup equal key rest

/-- Each entry of the first list has an equal entry in the second one. -/
def equalEntries (equal : Value → Value → Except Raised Bool) :
    List (Value × Value) → List (Value × Value) → Except Raised Bool
  | [], _ => .ok true
  | (k, v) :: rest, entries => do
    match ← lookup equal k entries with
    | some w => if ← equal v w then equalEntries equal rest entries else return false
    | Option.none => return false

/-- Two values are equal, where values hold one another so often at most. -/
def equalWithin (h : Heap) : Nat → Value → Value → Except Raised Bool
  | 0, _, _ => .error (tooDeep "in comparison")
  | fuel + 1, v, w =>
    let equal := equalWithin h fuel
    match v, w with
    | .object m, .object n =>
      if m = n then .ok true
      else
        match h.contents m, h.contents n with
        | .list xs, .list ys =>
          if xs.length = ys.length then equalItems (fun v w => equal v w) xs ys else .ok false
        | .tuple xs, .tuple ys => equalItems (fun v w => equal v w) xs ys
        | .dict xs, .dict ys =>
          if xs.length = ys.length then equalEntries (fun v w => equal v w) xs ys else .ok false
        | _, _ => .ok false
    | v, w => .ok (equalPlain v w)

/-- Two values are equal. -/
def equal (h : Heap) (v w : Value) : Except Raised Bool := equalWithin h deepest v w

/-- The values have the same type and are equal. -/
def strictlyEqual (h : Heap) (v w : Value) : Except Raised Bool :=
  if v.kind h = w.kind h then v.equal h w else .ok false

/-! ### Keys -/

/-- A key of a dictionary may hold no list and no dictionary. -/
def checkKeyWithin (h : Heap) : Nat → Value → Except Raised Unit
  | 0, _ => .ok ()
  | fuel + 1, v =>
    match v with
    | .object n =>
      match h.contents n with
      | .tuple items => items.forM fun v => checkKeyWithin h fuel v
      | _ =>
        .error (.builtin "TypeError" ("unhashable type: " ++ Text.quoted (v.typeName h)))
    | _ => .ok ()

/-- A key of a dictionary may hold no list and no dictionary. -/
def checkKey (h : Heap) (v : Value) : Except Raised Unit := checkKeyWithin h deepest v

/-- The entries with `key` bound to `value`: an equal key keeps its place and its own form. -/
def putEntry (h : Heap) (key value : Value) :
    List (Value × Value) → Except Raised (List (Value × Value))
  | [] => .ok [(key, value)]
  | (k, v) :: rest => do
    if ← k.equal h key then return (k, value) :: rest
    else return (k, v) :: (← putEntry h key value rest)

/-- What a dictionary holds whose entries came one after the other. -/
def entriesOf (h : Heap) (entries : List (Value × Value)) : Except Raised Contents := do
  let put (done : List (Value × Value)) (e : Value × Value) :
      Except Raised (List (Value × Value)) := do
    e.1.checkKey h
    putEntry h e.1 e.2 done
  return .dict (← entries.foldlM put [])

end DocExamples.Value
