import DocExamples.Failure
import DocExamples.Text.Blank
import DocExamples.Text.Word
import DocExamples.Value.Equality

/-!
Checks of an evaluated example against what its documentation promises.
-/

namespace DocExamples.Check

open Text

/-! ### Values -/

/-- The value must be equal to the promised one and of the same type. -/
def value (heap : Heap) (v expected : Value) (display lastExpression expectedSource : String) :
    Except Problem Value :=
  match v.strictlyEqual heap expected with
  | .ok true => .ok v
  | .ok false =>
    .error (.ofBuild (Failure.build heap "Doctest failed" (some display)
      (some (lastExpression ++ " === " ++ trim expectedSource)) v expected none))
  | .error e => .error (.thrown (.raised e))

/-- The comparison that a shown value is checked by. -/
def shownCode (lastExpression expected : String) : String :=
  "inspect(" ++ lastExpression ++ ") === " ++ quoted (trim expected)

/-- The shown form of the value must be the promised text.  If showing it raised an error of a
program, that is a failure too. -/
def shown (v : Value) (rendered : Except Thrown String) (expected display lastExpression : String) :
    Except Problem Value :=
  let code := shownCode lastExpression expected
  match rendered with
  | .ok actual =>
    if actual = expected then .ok v
    else
      .error (.ofBuild (Failure.build {} "Doctest failed" (some display) (some code) (.str actual)
        (.str expected) none))
  | .error (.malformed m) => .error (.failed (.plain m.text display (some code) none))
  | .error (.raised e) =>
    if e.cls.isOrdinary then .error (.failed (.plain e.message display (some code) none))
    else .error (.thrown (.raised e))
  | .error (.halted h) => .error (.thrown (.halted h))

/-! ### Exceptions -/

/-- The evaluation must have raised the exception with this name and exactly this message.  A
source that does not parse raises nothing. -/
def raises (outcome : Except Thrown Value) (name message display : String) : Except Problem Unit :=
  match outcome with
  | .ok _ =>
    .error (.failed (.plain
      ("Doctest failed: expected exception " ++ name ++ " but nothing was raised") display none
      none))
  | .error (.raised e) =>
    if !e.cls.isOrdinary then .error (.thrown (.raised e))
    else if !e.cls.matchesName name then
      .error (.failed (.plain
        ("Doctest failed: expected exception " ++ name ++ " but got " ++ e.cls.qualifiedName
          ++ " with message " ++ quoted e.message) display none none))
    else if e.message ≠ message then
      .error (.failed (.plain
        ("Doctest failed: wrong message for " ++ e.cls.qualifiedName ++ "\nexpected:\n  "
          ++ quoted message ++ "\nactual:\n  " ++ quoted e.message) display none none))
    else .ok ()
  | .error t => .error (.thrown t)

/-! ### Sources that do not parse -/

/-- A run of word characters and points, and the mark behind it. -/
def closesShownTag : List Char → Bool
  | [] => false
  | c :: rest => (isWord c || c = '.') && (rest.head? == some '<' || closesShownTag rest)

/-- The text holds what looks like a shown value, which readers take for a comment. -/
def mentionsShownValue : List Char → Bool
  | [] => false
  | c :: rest => (c = '#' && closesShownTag rest) || mentionsShownValue rest

/-- Advice for a shown value inside an expected value. -/
def shownValueHint : String :=
  "\nIf you are planning to assert on the result of an iex> expression "
    ++ "which contains a value inspected as #Name<...>, please make sure "
    ++ "the inspected value is placed at the beginning of the expression; "
    ++ "otherwise it will be treated as a comment due to the leading sign #."

/-- The name of the class of a malformed source that has no cause. -/
def malformedName : String := "MalformedSourceError"

/-- The failure of an example whose source, or expected result, does not parse. -/
def compileFailure (m : Malformed) (source display : String) : Failure :=
  let name := (m.cause.map (·.name)).getD malformedName
  let hint :=
    if m.cause.any (·.isSyntaxError) && mentionsShownValue source.toList then shownValueHint else ""
  .plain ("Doctest did not compile, got: (" ++ name ++ ") " ++ m.message ++ hint) display none
    m.line

end DocExamples.Check
