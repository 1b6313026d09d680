import DocExamples.Text.Integer
import DocExamples.Value.Raising

/-!
Built-in names.

Functions, types, exceptions and some other values have names that need not be bound.  Those that
scripts call work; the others can only be mentioned.  A script may bind a value of its own in the
place of them all; names that are not bound are then looked up in that value.
-/

namespace DocExamples.Script

/-! ### Names -/

/-- The built-in functions. -/
def functionNames : List String :=
  ["__build_class__", "__import__", "abs", "aiter", "all", "anext", "any", "ascii", "bin",
   "breakpoint", "callable", "chr", "compile", "delattr", "dir", "divmod", "eval", "exec",
   "format", "getattr", "globals", "hasattr", "hash", "hex", "id", "input", "isinstance",
   "issubclass", "iter", "len", "locals", "max", "min", "next", "oct", "open", "ord", "pow",
   "print", "repr", "round", "setattr", "sorted", "sum", "vars"]

/-- The built-in types that are no exceptions. -/
def typeNames : List String :=
  ["bool", "bytearray", "bytes", "classmethod", "complex", "dict", "enumerate", "filter", "float",
   "frozenset", "int", "list", "map", "memoryview", "object", "property", "range", "reversed",
   "set", "slice", "staticmethod", "str", "super", "tuple", "type", "zip"]

/-- The name of the documentation of a script. -/
def documentationName : String := "__doc__"

/-- What is said about the built-in names. -/
def documentation : String :=
  "Built-in functions, types, exceptions, and other objects.\n\n"
    ++ "This module provides direct access to all 'built-in'\n"
    ++ "identifiers of Python; for example, builtins.len is\n"
    ++ "the full name for the built-in function len().\n\n"
    ++ "This module is not normally accessed explicitly by most\n"
    ++ "applications, but can be useful in modules that provide\n"
    ++ "objects with the same name as a built-in value, but in\n"
    ++ "which the built-in of that name is also needed."

/-- The built-in names of other values. -/
def constants : List (String × Value) :=
  [("Ellipsis", .foreign 1 "Ellipsis"), ("NotImplemented", .foreign 2 "NotImplemented"),
   (documentationName, .str documentation), ("__name__", .str "builtins"),
   ("__package__", .str ""),
   ("exit", .foreign 3 "Use exit() or Ctrl-D (i.e. EOF) to exit"),
   ("help", .foreign 4
     "Type help() for interactive help, or help(object) for help about object."),
   ("quit", .foreign 5 "Use quit() or Ctrl-D (i.e. EOF) to exit")]

/-- The value of a built-in name. -/
def builtin? (name : String) : Option Value :=
  if functionNames.contains name then some (.function name)
  else if typeNames.contains name then some (.type name)
  else if ExceptionClass.builtinNames.contains name then
    some (.type (ExceptionClass.properName name))
  else constants.lookup name

/-- What the names that are not bound stand for. -/
inductive Builtins where
  | standard
  /-- The parts of a value that a script has bound in their place. -/
  | replaced (v : Value)
deriving DecidableEq, Repr

/-- The complaint about a name that stands for nothing. -/
def undefinedName (name : String) : Raised :=
  .builtin "NameError" ("name " ++ Text.quoted name ++ " is not defined")

/-- The value of a name that is not bound; a part that is missing raises the given exception. -/
def Builtins.value (h : Heap) (b : Builtins) (name : String) (missing : Raised) :
    Except Raised Value :=
  match b with
  | .standard =>
    match builtin? name with
    | some v => .ok v
    | none => .error missing
  | .replaced v =>
    (v.index h (.str name)).mapError fun e => if e.cls = .builtin "KeyError" then missing else e

/-! ### Calls -/

/-- The only argument of a call. -/
def single (name : String) : List Value → Except Raised Value
  | [v] => .ok v
  | args =>
    Value.typeError (name ++ "() takes exactly one argument (" ++ toString args.length ++ " given)")

/-- The whole number that a text writes. -/
def integerFrom (result : Except Text.IntegerFault Int) : Except Raised Value :=
  match result with
  | .ok n => .ok (.int n)
  | .error fault => .error (.builtin "ValueError" fault.message)

/-- The whole number that a value gives. -/
def integerOf (h : Heap) (v : Value) : Except Raised Value :=
  match v, v.int? with
  | _, some n => .ok (.int n)
  | .str s, none => integerFrom (Text.readInteger s)
  | _, none =>
    Value.typeError ("int() argument must be a string, a bytes-like object or a real number, not "
      ++ Text.quoted (v.typeName h))

/-- The whole number that a text writes in a number system. -/
def integerIn (h : Heap) (v radix : Value) : Except Raised Value :=
  match radix.int?, v with
  | none, _ =>
    Value.typeError
      (Text.quoted (radix.typeName h) ++ " object cannot be interpreted as an integer")
  | some r, v =>
    if r ≠ 0 ∧ (r < 2 ∨ 36 < r) then
      .error (.builtin "ValueError" "int() base must be >= 2 and <= 36, or 0")
    else
      match v with
      | .str s => integerFrom (Text.readIntegerIn r.toNat s)
      | _ => Value.typeError "int() can't convert non-string with explicit base"

/-- The value of a call of the type of whole numbers. -/
def integerCall (h : Heap) : List Value → Except Raised Value
  | [] => .ok (.int 0)
  | [v] => integerOf h v
  | [v, radix] => integerIn h v radix
  | args =>
    Value.typeError ("int() takes at most 2 arguments (" ++ toString args.length ++ " given)")

/-- The value of a call of the type of texts.  Nothing but bytes could be decoded. -/
def textCall (h : Heap) : List Value → Except Raised Value
  | [] => .ok (.str "")
  | [v] => do return .str (← v.plain h)
  | v :: options =>
    let badOption := (["encoding", "errors"].zip options).find? fun o => o.2.kind h ≠ .str
    if 2 < options.length then
      Value.typeError
        ("str() takes at most 3 arguments (" ++ toString (options.length + 1) ++ " given)")
    else
      match badOption, v with
      | some (what, o), _ =>
        Value.typeError ("str() argument " ++ Text.quoted what ++ " must be str, not "
          ++ if o = .none then "None" else o.typeName h)
      | none, .str _ => Value.typeError "decoding str is not supported"
      | none, v =>
        Value.typeError
          ("decoding to str: need a bytes-like object, " ++ v.typeName h ++ " found")

/-- The value of a call of the type of truth values. -/
def truthCall (h : Heap) : List Value → Except Raised Value
  | [] => .ok (.bool false)
  | [v] => .ok (.bool (v.truth h))
  | args => Value.typeError ("bool expected at most 1 argument, got " ++ toString args.length)

/-- The items of a list with the least one in front. -/
def sortedItems (h : Heap) : List Value → Except Raised (List Value)
  | [v] => do Value.sorted h (← v.items h)
  | args =>
    Value.typeError ("sorted expected 1 argument, got " ++ toString args.length)

/-- The value of a call.  What is printed is dropped. -/
def apply (f : Value) (args : List Value) : Work Value := do
  let h ← get
  let settled (result : Except Raised Value) : Work Value := Work.read fun _ => result
  match f with
  | .function "len" =>
    settled do return .int (← (← single "len" args).length h)
  | .function "repr" => settled do return .str (← (← single "repr" args).shown h)
  | .function "sorted" => do
    Work.allocate (.list (← Work.read fun h => sortedItems h args))
  | .function "print" =>
    settled do
      let _ ← args.mapM (Value.plain h)
      return .none
  | .type "int" => settled (integerCall h args)
  | .type "str" => settled (textCall h args)
  | .type "bool" => settled (truthCall h args)
  | _ => settled (Value.typeError (Text.quoted (f.typeName h) ++ " object is not callable"))

end DocExamples.Script
