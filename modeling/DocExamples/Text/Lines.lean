/-!
Lines of a text.

Two notions of a line stand side by side.  A documentation text is cut at line feeds, after each
carriage return that stands directly before one is dropped (`documentLines`).  Reports and
expected results are cut at every line boundary of the Unicode tables, and a boundary at the very
end opens no further line (`boundaryLines`).
-/

namespace DocExamples.Text

/-! ### Cutting at one character -/

/-- The pieces between the occurrences of `sep`; there is always at least one piece. -/
def splitAt (sep : Char) (cs : List Char) : List (List Char) :=
  cs.foldr
    (fun c pieces =>
      if c = sep then [] :: pieces
      else match pieces with
        | [] => [[c]]
        | piece :: rest => (c :: piece) :: rest)
    [[]]

theorem splitAt_ne_nil (sep : Char) (cs : List Char) : splitAt sep cs ≠ [] := by
  cases cs with
  | nil => simp [splitAt]
  | cons c cs =>
    simp only [splitAt, List.foldr_cons]
    split
    · simp
    · split <;> simp

/-- Text lines with a line feed between them. -/
def joinLines (lines : List String) : String :=
  String.intercalate "\n" lines

/-! ### Documentation lines -/

/-- The text without the carriage returns that stand directly before a line feed; `done` holds
the characters read so far, the last one first. -/
def foldCrlfOnto (done : List Char) : List Char → List Char
  | [] => done.reverse
  | '\r' :: '\n' :: rest => foldCrlfOnto ('\n' :: done) rest
  | c :: rest => foldCrlfOnto (c :: done) rest

/-- The text with each carriage return and line feed pair replaced by the line feed. -/
def foldCrlf (cs : List Char) : List Char := foldCrlfOnto [] cs

/-- The lines of a documentation text. -/
def documentLines (doc : String) : List String :=
  (splitAt '\n' (foldCrlf doc.toList)).map String.ofList

/-- The text with every carriage return, alone or before a line feed, read as a line feed. -/
def unifyNewlines (cs : List Char) : List Char :=
  (foldCrlf cs).map fun c => if c = '\r' then '\n' else c

/-! ### Line boundaries -/

/-- The characters that end a line on their own. -/
def isLineBoundary (c : Char) : Bool :=
  c = '\n' || c = '\r' || c = '\x0b' || c = '\x0c' || c = '\x1c' || c = '\x1d' || c = '\x1e'
    || c = '\u0085' || c = '\u2028' || c = '\u2029'

/-- Cut at line boundaries; `line` is the line being read, its last character first.  A carriage
return takes a line feed behind it along, and nothing after the last boundary is no line. -/
def boundaryLinesFrom (line : List Char) : List Char → List (List Char)
  | [] => if line.isEmpty then [] else [line.reverse]
  | '\r' :: '\n' :: rest => line.reverse :: boundaryLinesFrom [] rest
  | c :: rest =>
    if isLineBoundary c then line.reverse :: boundaryLinesFrom [] rest
    else boundaryLinesFrom (c :: line) rest

/-- The lines of a text, cut at every line boundary. -/
def boundaryLines (s : String) : List String :=
  (boundaryLinesFrom [] s.toList).map String.ofList

end DocExamples.Text
