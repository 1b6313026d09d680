/-!
Values of expressions.

The values are those of a small dynamic language.  Lists, tuples and dictionaries are objects: a
value holds the number of the object, and the heap tells what the object holds.  Two values with one
number are the same object, so changing a list changes it for all values that hold it, and a list
may hold itself.  Two kinds of foreign object stand for everything else: one that can be shown, and
one whose showing fails.
-/

namespace DocExamples

/-- The value of an expression. -/
inductive Value where
  | none
  | bool (b : Bool)
  | int (n : Int)
  /-- A floating-point number, by its shortest text. -/
  | float (text : String)
  | str (s : String)
  /-- A list, a tuple or a dictionary, by its number on the heap. -/
  | object (number : Nat)
  /-- A built-in function. -/
  | function (name : String)
  /-- A built-in type. -/
  | type (name : String)
  /-- An object that is shown as given. -/
  | foreign (id : Nat) (shown : String)
  /-- An object whose showing raises an error with the message. -/
  | unshowable (id : Nat) (message : String)
deriving DecidableEq, Repr, Inhabited

/-- What an object holds. -/
inductive Contents where
  | list (items : List Value)
  | tuple (items : List Value)
  /-- Entries in the order in which their keys came. -/
  | dict (entries : List (Value × Value))
deriving DecidableEq, Repr

/-- What all objects hold, by their numbers. -/
structure Heap where
  objects : Array Contents := #[]
deriving DecidableEq, Repr

namespace Heap

/-- What an object holds. -/
def contents (h : Heap) (number : Nat) : Contents := h.objects.getD number (.list [])

/-- A new object, and the heap with it. -/
def allocate (h : Heap) (c : Contents) : Value × Heap :=
  (.object h.objects.size, ⟨h.objects.push c⟩)

/-- The heap where an object holds something else. -/
def write (h : Heap) (number : Nat) (c : Contents) : Heap := ⟨h.objects.setIfInBounds number c⟩

/-- What a value holds, if it is an object. -/
def contents? (h : Heap) : Value → Option Contents
  | .object number => some (h.contents number)
  | _ => Option.none

end Heap

namespace Value

/-- The types of values. -/
inductive Kind where
  | none | bool | int | float | str | list | tuple | dict | function | type | foreign | unshowable
deriving DecidableEq, Repr

/-- The type of a value. -/
def kind (h : Heap) : Value → Kind
  | .none => .none
  | .bool _ => .bool
  | .int _ => .int
  | .float _ => .float
  | .str _ => .str
  | .object number =>
    match h.contents number with
    | .list _ => .list
    | .tuple _ => .tuple
    | .dict _ => .dict
  | .function _ => .function
  | .type _ => .type
  | .foreign .. => .foreign
  | .unshowable .. => .unshowable

/-- The name of a type in messages. -/
def Kind.name : Kind → String
  | .none => "NoneType"
  | .bool => "bool"
  | .int => "int"
  | .float => "float"
  | .str => "str"
  | .list => "list"
  | .tuple => "tuple"
  | .dict => "dict"
  | .function => "builtin_function_or_method"
  | .type => "type"
  | .foreign | .unshowable => "object"

/-- The name of a value's type in messages. -/
def typeName (h : Heap) (v : Value) : String := (v.kind h).name

end Value

end DocExamples
