import DocExamples.Text.Blank

/-!
Log levels: how much a running service tells about itself.
-/

namespace DocExamples.LogLevel

/-- The names of levels. -/
def names : List String :=
  ["CRITICAL", "FATAL", "ERROR", "WARN", "WARNING", "INFO", "DEBUG", "NOTSET"]

/-- The level where none is asked for. -/
def standard : String := "INFO"

/-- The capital of a letter that may stand in the name of a level; other characters are kept.  Two
letters that are not ASCII have ASCII capitals. -/
def capital (c : Char) : Char :=
  if c = 'ı' then 'I' else if c = 'ſ' then 'S' else c.toUpper

/-- The level that a text asks for, whatever its case and the white space around it; an unknown one
is the standard level. -/
def ofText (text : Option String) : String :=
  let name := String.ofList ((Text.trim (text.getD standard)).toList.map capital)
  if names.contains name then name else standard

end DocExamples.LogLevel
