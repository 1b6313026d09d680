import DocExamples.Text.Number
import DocExamples.Text.Quoted
import DocExamples.Value

/-!
The shown form of values.

Showing a value writes it as its source would be written; an object that is met again inside of
itself is shown by its brackets only.  Showing fails if the value holds an object whose showing
fails, or a whole number of too many digits; the first one decides.
-/

namespace DocExamples.Value

/-! ### Objects -/

/-- How often values may hold one another where they are shown or compared. -/
def deepest : Nat := 1000

/-- Values hold one another too often. -/
def tooDeep (activity : String) : Raised :=
  .builtin "RecursionError" ("maximum recursion depth exceeded " ++ activity)

/-- Shown items between brackets. -/
def bracketed (opening closing : String) (items : List String) : String :=
  opening ++ String.intercalate ", " items ++ closing

/-- Shown items of a tuple between parentheses; a single item is followed by a comma. -/
def tupleText : List String → String
  | [item] => "(" ++ item ++ ",)"
  | items => bracketed "(" ")" items

/-- The brackets of an object. -/
def brackets : Contents → String × String
  | .list _ => ("[", "]")
  | .tuple _ => ("(", ")")
  | .dict _ => ("\x7b", "\x7d")

/-- The shown form of a value inside of the objects `around` it. -/
def shownWithin (h : Heap) : Nat → List Nat → Value → Except Raised String
  | 0, _, _ => .error (tooDeep "while getting the repr of an object")
  | fuel + 1, around, v =>
    match v with
    | .none => .ok "None"
    | .bool b => .ok (if b then "True" else "False")
    | .int n => Text.digits n
    | .float text => .ok text
    | .str s => .ok (Text.quoted s)
    | .object number =>
      let contents := h.contents number
      let (opening, closing) := brackets contents
      let shown := shownWithin h fuel (number :: around)
      if number ∈ around then .ok (opening ++ "..." ++ closing)
      else
        match contents with
        | .list items => do return bracketed opening closing (← items.mapM fun v => shown v)
        | .tuple items => do return tupleText (← items.mapM fun v => shown v)
        | .dict entries => do
          let texts ← entries.mapM fun e => do
            let key ← shown e.1
            let value ← shown e.2
            return key ++ ": " ++ value
          return bracketed opening closing texts
    | .function name => .ok ("<built-in function " ++ name ++ ">")
    | .type name => .ok ("<class '" ++ name ++ "'>")
    | .foreign _ text => .ok text
    | .unshowable _ message => .error (.builtin "RuntimeError" message)

/-- The shown form of a value. -/
def shown (h : Heap) (v : Value) : Except Raised String := shownWithin h deepest [] v

/-- A value as plain text: a string as it is, any other value in its shown form. -/
def plain (h : Heap) : Value → Except Raised String
  | .str s => .ok s
  | v => v.shown h

/-- The shown form of some values as the items of a tuple. -/
def shownTogether (h : Heap) (items : List Value) : Except Raised String := do
  return tupleText (← items.mapM (shown h))

end DocExamples.Value
