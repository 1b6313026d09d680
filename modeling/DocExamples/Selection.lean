import DocExamples.Defect
import DocExamples.Example

/-!
Selecting groups by what they document.

A selection may name the identifiers to keep and the identifiers to leave out.  The groups it keeps
are listed by their start lines; groups of one start line stay in the order they came in.
-/

namespace DocExamples

/-- Which identifiers to run. -/
structure Selection where
  /-- Keep these only; without a list everything is kept. -/
  only : Option (List Identifier) := none
  /-- Leave these out. -/
  exclude : List Identifier := []
deriving DecidableEq, Repr

namespace Selection

/-- Put a group in front of the first one that does not start earlier. -/
def insertByLine (g : Group) : List Group → List Group
  | [] => [g]
  | h :: rest => if g.startLine ≤ h.startLine then g :: h :: rest else h :: insertByLine g rest

/-- The groups by their start lines; groups of one start line keep their order. -/
def sortByLine (groups : List Group) : List Group := groups.foldr insertByLine []

/-- The selection keeps the groups of an identifier. -/
def keeps (s : Selection) (i : Identifier) : Bool :=
  !s.exclude.contains i && (match s.only with
    | none => true
    | some only => only.contains i)

/-- The identifiers asked for, apart from the module itself, for which nothing is kept. -/
def missing (s : Selection) (groups : List Group) : List Identifier :=
  let kept := (groups.filter fun g => s.keeps g.identifier).map (·.identifier)
  (s.only.getD []).filter fun i => i ≠ .moduledoc && !kept.contains i

/-- The groups that a selection keeps, in the order of their start lines. -/
def apply (s : Selection) (groups : List Group) : Except Defect (List Group) :=
  match s.missing groups with
  | [] => .ok (sortByLine (groups.filter fun g => s.keeps g.identifier))
  | lost => .error (.undefinedSelectors lost)

end Selection

end DocExamples
