import DocExamples.Check
import DocExamples.Example

/-!
Running examples.

An example is evaluated and checked against what it promises.  A group runs its examples one after
the other on one evaluator and stops at the first problem; the line of each example follows from
the line of the group and the sizes of the examples in front.
-/

namespace DocExamples

variable {σ : Type}

/-- The problem, where a source that does not parse has become a failure of the example. -/
def Problem.ofThrown (source display : String) : Thrown → Problem
  | .malformed m => .failed (Check.compileFailure m source display)
  | t => .thrown t

/-- A call of the evaluator for this source; if the source does not parse, the example fails. -/
def Eval.forSource {α : Type} (source display : String) (call : Eval σ Thrown α) :
    Eval σ Problem α :=
  ExceptT.mk do
    match ← call.run with
    | .ok a => return .ok a
    | .error t => return .error (.ofThrown source display t)

/-- A check that needs no evaluator. -/
def Eval.check {α : Type} (result : Except Problem α) : Eval σ Problem α := ExceptT.mk (pure result)

/-- A check of what objects hold now. -/
def Eval.checkHeap {α : Type} (ev : Evaluator σ) (result : Heap → Except Problem α) :
    Eval σ Problem α :=
  ExceptT.mk do return result (ev.heap (← get))

namespace Example

/-- The check of an exception; a source that does not parse fails the example. -/
def checkRaises (e : Example) (outcome : Except Thrown Value) (name message : String) :
    Except Problem Unit :=
  match Check.raises outcome name message e.display with
  | .error (.thrown t) => .error (.ofThrown e.sourceText e.display t)
  | result => result

/-- Run the example, whose first line has the given number, and check what it promises.  The result
is the value of the example, or none if an exception was promised. -/
def run (ev : Evaluator σ) (e : Example) (line : Int) : Eval σ Problem Value := do
  match e.expectation with
  | .exception name message =>
    let outcome ← ExceptT.mk do return .ok (← (ev.evaluate e.sourceText line).run)
    Eval.check (e.checkRaises outcome name message)
    return .none
  | .none => Eval.forSource e.sourceText e.display (ev.evaluate e.sourceText line)
  | .shown display =>
    let v ← Eval.forSource e.sourceText e.display (ev.evaluate e.sourceText line)
    let last ← Eval.forSource e.sourceText e.display (ev.lastExpression e.sourceText)
    let rendered ← ExceptT.mk do return .ok (← (ev.render v).run)
    Eval.check (Check.shown v rendered display e.display last)
  | .value source =>
    let v ← Eval.forSource e.sourceText e.display (ev.evaluate e.sourceText line)
    let last ← Eval.forSource e.sourceText e.display (ev.lastExpression e.sourceText)
    let expected ←
      Eval.forSource source e.display (ev.evaluate source (line + e.source.length))
    Eval.checkHeap ev fun heap => Check.value heap v expected e.display last source

/-- How many lines the example is counted for. -/
def height (e : Example) : Nat := e.source.length + (Text.boundaryLines e.expected).length

end Example

/-- A failure without a line gets the line of its example. -/
def Problem.atLine (line : Int) : Problem → Problem
  | .failed f => .failed { f with line := some (f.line.getD line) }
  | p => p

namespace Group

/-- Run examples one after the other, the first one at the given line. -/
def runFrom (ev : Evaluator σ) (line : Int) : List Example → Eval σ Problem (List Value)
  | [] => return []
  | e :: rest => do
    let v ← ExceptT.mk do
      return (← (e.run ev line).run).mapError (Problem.atLine line)
    let vs ← runFrom ev (line + e.height) rest
    return v :: vs

/-- Run the examples of a group; the result has one value per example. -/
def run (ev : Evaluator σ) (g : Group) : Eval σ Problem (List Value) :=
  runFrom ev g.startLine g.examples

end Group

end DocExamples
