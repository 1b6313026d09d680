import DocExamples.Text.Lines

/-!
The files that documents are read from.

A file tree is known from its own root: a path that leaves it leads to no file.
-/

namespace DocExamples

/-- Files and directories by the names on their way from the root. -/
structure FileTree where
  files : List (List String × List UInt8) := []
  directories : List (List String) := []
deriving Repr

/-- What a path leads to. -/
inductive FileTree.Target where
  | nothing
  | file (content : List UInt8)
  | directory
  /-- The path, or a name on the way, is longer than any that can be looked up. -/
  | tooLong
deriving DecidableEq, Repr

/-! ### Paths -/

/-- A path as it was written, taken apart at the slashes. -/
structure DocPath where
  /-- The slashes in front of a path that starts at the root of the machine. -/
  root : String
  /-- The names on the way; empty ones and single points are left out. -/
  names : List String
deriving DecidableEq, Repr

namespace DocPath

/-- What stands for the slashes in front of a path: two are kept, more are one. -/
def rootOf (s : String) : String :=
  let slashes := (s.toList.takeWhile (· = '/')).length
  if slashes = 0 then "" else if slashes = 2 then "//" else "/"

/-- The path that a text writes. -/
def ofText (s : String) : DocPath where
  root := rootOf s
  names := ((Text.splitAt '/' s.toList).map String.ofList).filter fun n => n ≠ "" ∧ n ≠ "."

/-- The last name with everything before the last point left out; empty if nothing stands before or
behind the point. -/
def suffixOf (name : String) : String :=
  let rev := name.toList.reverse
  let extension := rev.takeWhile (· ≠ '.')
  match rev.drop extension.length with
  | '.' :: _ :: _ => if extension.isEmpty then "" else .ofList ('.' :: extension.reverse)
  | _ => ""

/-- The suffix of the last name of a path. -/
def suffix (p : DocPath) : String := suffixOf (p.names.getLast?.getD "")

/-- The shortest text that writes the path. -/
def text (p : DocPath) : String :=
  if p.root = "" ∧ p.names.isEmpty then "." else p.root ++ String.intercalate "/" p.names

/-- Most bytes of a name that can be looked up. -/
def maxNameSize : Nat := 255

/-- Most bytes of a path that can be looked up. -/
def maxSize : Nat := 4095

end DocPath

namespace FileTree

/-! ### Looking up -/

/-- The names lead to a directory. -/
def isDirectory (t : FileTree) (names : List String) : Bool :=
  names.isEmpty || t.directories.any names.isPrefixOf
    || t.files.any fun f => names.isPrefixOf f.1 && names.length < f.1.length

/-- What stands behind the names. -/
def target (t : FileTree) (names : List String) : Target :=
  if t.isDirectory names then .directory
  else
    match t.files.find? (·.1 = names) with
    | some f => .file f.2
    | none => .nothing

/-- Follow names from a directory on, which may lie outside of the tree.  Each step starts in a
directory, and two points lead back; outside of the tree no other name leads anywhere. -/
def follow (t : FileTree) (here : Option (List String)) : List String → Target
  | [] => (here.map t.target).getD .directory
  | name :: rest =>
    if !here.all t.isDirectory then .nothing
    else if name = ".." then t.follow ((here.filter (· ≠ [])).map List.dropLast) rest
    else if DocPath.maxNameSize < name.utf8ByteSize then .tooLong
    else
      match here with
      | some names => t.follow (some (names ++ [name])) rest
      | none => .nothing

/-- What a path leads to.  No path with a NUL in it leads anywhere. -/
def find (t : FileTree) (p : DocPath) : Target :=
  if p.names.any (·.toList.contains '\x00') then .nothing
  else if DocPath.maxSize < p.text.utf8ByteSize then .tooLong
  else t.follow (if p.root = "" then some [] else none) p.names

end FileTree

end DocExamples
