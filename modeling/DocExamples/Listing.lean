import DocExamples.Json
import DocExamples.Selection
import DocExamples.Transcript

/-!
Listings: the named and tagged tests of a module or a document.
-/

namespace DocExamples

/-- One piece of documentation of a module. -/
structure DocUnit where
  identifier : Identifier
  /-- The line of the documentation attribute. -/
  line : Int
  text : String
deriving DecidableEq, Repr

/-- A test that can be run. -/
structure NamedTest where
  name : String
  group : Group
  /-- What is known about the test, by key. -/
  tags : List (String × Json)
deriving Repr

namespace Listing

/-- The tags of a test: its line and its module or document, then the extra tags. -/
def tags (owner : String) (extra : List (String × Json)) (g : Group) : List (String × Json) :=
  Json.putAll [("doctest_line", .int g.startLine), ("doctest", .str owner)] extra

/-- Tests for groups, numbered from one. -/
def number (name : Group → Int → String) (owner : String) (extra : List (String × Json))
    (groups : List Group) : List NamedTest :=
  groups.zipIdx.map fun (g, i) => ⟨name g (i + 1), g, tags owner extra g⟩

@[simp] theorem map_group_number (name : Group → Int → String) (owner : String)
    (extra : List (String × Json)) (groups : List Group) :
    (number name owner extra groups).map (·.group) = groups := by
  rw [number, List.map_map]
  exact List.zipIdx_map_fst 0 groups

/-- The groups of all units, in the order of the units. -/
def groupsOf (units : List DocUnit) : Except Defect (List Group) := do
  return (← units.mapM fun u => Transcript.extract u.identifier u.text u.line).flatten

/-- Tests named for a module. -/
def forModule (module : String) (extra : List (String × Json)) (groups : List Group) :
    List NamedTest :=
  number (fun g n => g.identifier.testName module n) module extra groups

/-- The tests of a module's documentation that a selection keeps. -/
def ofUnits (module : String) (selection : Selection) (extra : List (String × Json))
    (units : List DocUnit) : Except Defect (List NamedTest) := do
  return forModule module extra (← selection.apply (← groupsOf units))

/-- The tests of a document whose first line is line one. -/
def ofDocument (path : String) (extra : List (String × Json)) (text : String) :
    Except Defect (List NamedTest) := do
  return number (fun _ n => path ++ " (" ++ toString n ++ ")") path extra
    (← Transcript.extract .moduledoc text 0)

end Listing

end DocExamples
