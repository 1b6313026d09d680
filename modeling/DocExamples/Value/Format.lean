import DocExamples.Value.Index

/-!
Filling in texts.

A text may have directives, which start with a percent sign; each one is replaced by a value in the
form that the directive asks for.  The values are the items of a tuple, or the values that a
dictionary has under keys, or a single value.
-/

namespace DocExamples.Value

/-! ### Directives -/

/-- What stands between the percent sign of a directive and its last letter. -/
structure Directive where
  /-- Blanks are filled in on the right. -/
  left : Bool := false
  /-- A number that is not negative has a plus sign. -/
  plus : Bool := false
  /-- A number that is not negative has a blank in place of a sign. -/
  blank : Bool := false
  /-- A number is written with a mark for its number system, or with a point. -/
  marked : Bool := false
  /-- Zeros are filled in between the sign and the digits of a number. -/
  zeros : Bool := false
  width : Nat := 0
  precision : Option Nat := Option.none
deriving DecidableEq, Repr

/-- The directive with a flag, if the character is one. -/
def Directive.withFlag? (d : Directive) (c : Char) : Option Directive :=
  if c = '-' then some { d with left := true }
  else if c = '+' then some { d with plus := true }
  else if c = ' ' then some { d with blank := true }
  else if c = '#' then some { d with marked := true }
  else if c = '0' then some { d with zeros := true }
  else Option.none

/-- The flags that some characters start with, and the characters behind. -/
def readFlags (d : Directive) : List Char → Directive × List Char
  | [] => (d, [])
  | c :: rest =>
    match d.withFlag? c with
    | some d => readFlags d rest
    | Option.none => (d, c :: rest)

/-- The characters up to the parenthesis that closes the one in front, and those behind. -/
def readKey (depth : Nat) : List Char → Option (List Char × List Char)
  | [] => Option.none
  | c :: rest =>
    let close := c = ')'
    if close ∧ depth = 0 then some ([], rest)
    else
      let depth := if close then depth - 1 else if c = '(' then depth + 1 else depth
      (readKey depth rest).map fun (key, behind) => (c :: key, behind)

/-- An error of a value. -/
def valueError {α : Type} (message : String) : Except Raised α :=
  .error (.builtin "ValueError" message)

/-- A directive ends too soon. -/
def incomplete {α : Type} : Except Raised α := valueError "incomplete format"

/-- The next value to fill in, and those behind. -/
def next : List Value → Except Raised (Value × List Value)
  | [] => typeError "not enough arguments for format string"
  | v :: rest => .ok (v, rest)

/-- A whole number that a directive takes from the values. -/
def nextCount (limit : Nat) (type : String) (args : List Value) :
    Except Raised (Int × List Value) := do
  let (v, rest) ← next args
  match v.int? with
  | Option.none => typeError "* wants int"
  | some n =>
    if n < -(limit : Int) - 1 ∨ (limit : Int) < n then
      throw (.builtin "OverflowError" ("Python int too large to convert to C " ++ type))
    else return (n, rest)

/-- A width or a precision in digits, and the characters behind. -/
def readCount (limit : Nat) (what : String) (cs : List Char) : Except Raised (Nat × List Char) :=
  let digits := cs.takeWhile Char.isDigit
  let n := Text.Binary64.natOf digits
  if limit < n then valueError (what ++ " too big") else .ok (n, cs.dropWhile Char.isDigit)

/-- The largest width of a directive. -/
def mostWidth : Nat := 0x7FFFFFFFFFFFFFFF

/-- The largest precision of a directive. -/
def mostPrecision : Nat := 0x7FFFFFFF

/-- Read the width of a directive. -/
def readWidth (d : Directive) (args : List Value) (cs : List Char) :
    Except Raised (Directive × List Value × List Char) := do
  match cs with
  | '*' :: rest =>
    let (n, args) ← nextCount mostWidth "ssize_t" args
    return ({ d with width := n.natAbs, left := d.left || n < 0 }, args, rest)
  | cs =>
    let (n, rest) ← readCount mostWidth "width" cs
    return ({ d with width := n }, args, rest)

/-- Read the precision of a directive. -/
def readPrecision (d : Directive) (args : List Value) (cs : List Char) :
    Except Raised (Directive × List Value × List Char) := do
  match cs with
  | '.' :: '*' :: rest =>
    let (n, args) ← nextCount mostPrecision "int" args
    return ({ d with precision := some n.toNat }, args, rest)
  | '.' :: rest =>
    let (n, rest) ← readCount mostPrecision "precision" rest
    return ({ d with precision := some n }, args, rest)
  | cs => return (d, args, cs)

/-! ### Numbers -/

/-- The digits of a natural number in a number system. -/
def digitsIn (radix n : Nat) : List Char := Nat.toDigits radix n

/-- A whole number in the form of a letter. -/
def wholeNumber (d : Directive) (letter : Char) (n : Int) : Except Raised (List Char) := do
  let radix := if letter = 'o' then 8 else if letter = 'x' ∨ letter = 'X' then 16 else 10
  let digits ←
    if radix = 10 then (Text.digits n.natAbs).map String.toList else .ok (digitsIn radix n.natAbs)
  let digits := if letter = 'X' then digits.map Char.toUpper else digits
  let mark := if d.marked ∧ radix ≠ 10 then ['0', letter] else []
  let missing := (d.precision.getD 0) - digits.length
  return (if n < 0 then ['-'] else []) ++ mark ++ List.replicate missing '0' ++ digits

/-- A natural number rounded to some digits: these digits, and how many digits stand behind the
first one of the number. -/
def significant (count n : Nat) : List Char × Nat :=
  let digits := digitsIn 10 n
  if digits.length ≤ count then
    (digits ++ List.replicate (count - digits.length) '0', digits.length - 1)
  else
    let rounded := digitsIn 10
      (Text.Binary64.roundQuotient n (Text.Binary64.powerOfTen (digits.length - count)))
    (rounded.take count, digits.length - 1 + (rounded.length - count))

/-- Digits with a point behind the first ones, if any stand behind it or it is to be there. -/
def withPoint (d : Directive) (whole : Nat) (digits : List Char) : List Char :=
  let fraction := digits.drop whole
  digits.take whole ++ (if fraction.isEmpty ∧ !d.marked then [] else '.' :: fraction)

/-- Digits without the zeros at the end, as far as they stand behind the point. -/
def withoutZeros (d : Directive) (whole : Nat) (digits : List Char) : List Char :=
  if d.marked then digits
  else digits.take whole ++ ((digits.drop whole).reverse.dropWhile (· = '0')).reverse

/-- A power of ten behind a number, with two digits at least. -/
def powerText (letter : Char) (exponent : Nat) : List Char :=
  letter :: '+' :: (if exponent < 10 then ['0'] else []) ++ digitsIn 10 exponent

/-- A natural number in the form of a letter for numbers with fractions. -/
def fractionNumber (d : Directive) (letter : Char) (n : Nat) : List Char :=
  let precision := d.precision.getD 6
  let exponentLetter := if letter = 'E' ∨ letter = 'G' then 'E' else 'e'
  if letter = 'f' ∨ letter = 'F' then
    let digits := digitsIn 10 n
    withPoint d digits.length (digits ++ List.replicate precision '0')
  else if letter = 'e' ∨ letter = 'E' then
    let (digits, exponent) := significant (precision + 1) n
    withPoint d 1 digits ++ powerText exponentLetter exponent
  else
    let count := max precision 1
    let (digits, exponent) := significant count n
    if exponent < count then
      withPoint d (exponent + 1) (withoutZeros d (exponent + 1) digits)
    else withPoint d 1 (withoutZeros d 1 digits) ++ powerText exponentLetter exponent

/-- The whole number that is nearest to one among the floating-point numbers. -/
def roundedWhole (n : Int) : Except Raised Int :=
  match (Text.Binary64.ofDecimal (n < 0) n.natAbs 0).truncate with
  | some n => .ok n
  | Option.none => .error (.builtin "OverflowError" "int too large to convert to float")

/-! ### Values -/

/-- What kind of directive a letter ends. -/
inductive Conversion where
  | text | whole | fraction | character
deriving DecidableEq, Repr

/-- The kind of directive that a letter ends. -/
def conversion? (letter : Char) : Option Conversion :=
  if ['s', 'r', 'a'].contains letter then some .text
  else if ['d', 'i', 'u', 'o', 'x', 'X'].contains letter then some .whole
  else if ['e', 'E', 'f', 'F', 'g', 'G'].contains letter then some .fraction
  else if letter = 'c' then some .character
  else Option.none

/-- Characters where those that are not ASCII are escaped. -/
def escaped (cs : List Char) : List Char :=
  cs.flatMap fun c => if c.toNat < 0x80 then [c] else Text.codePoint c

/-- The character that a value gives. -/
def character (v : Value) : Except Raised (List Char) :=
  match v, v.int? with
  | .str s, _ =>
    match s.toList with
    | [c] => .ok [c]
    | _ => typeError "%c requires int or char"
  | _, some n =>
    if n < 0 ∨ 0x10FFFF < n then
      .error (.builtin "OverflowError" "%c arg not in range(0x110000)")
    else .ok [.ofNat n.toNat]
  | _, Option.none => typeError "%c requires int or char"

/-- The most characters that a directive may ask for. -/
def mostFilled : Nat := Text.Binary64.powerOfTwo 28

/-- A directive that asks for too many characters cannot be carried out; a text is only shortened by
a precision. -/
def Directive.checkSize (d : Directive) (conversion : Conversion) : Except Raised Unit :=
  let asked := if conversion = .text then d.width else max d.width (d.precision.getD 0)
  if mostFilled < asked then .error (.builtin "MemoryError" "") else .ok ()

/-- A value in the form of a directive, without the blanks around. -/
def converted (h : Heap) (d : Directive) (letter : Char) (conversion : Conversion) (v : Value) :
    Except Raised (List Char) :=
  match conversion with
  | .text => do
    let text ← if letter = 's' then v.plain h else v.shown h
    let cs := if letter = 'a' then escaped text.toList else text.toList
    return cs.take (d.precision.getD cs.length)
  | .whole =>
    match v.int? with
    | some n => wholeNumber d letter n
    | Option.none =>
      let kind := if ['o', 'x', 'X'].contains letter then "an integer" else "a real number"
      typeError ("%" ++ letter.toString ++ " format: " ++ kind ++ " is required, not "
        ++ v.typeName h)
  | .fraction =>
    match v.int? with
    | some n => do
      let n ← roundedWhole n
      return (if n < 0 then ['-'] else []) ++ fractionNumber d letter n.natAbs
    | Option.none => typeError ("must be real number, not " ++ v.typeName h)
  | .character => character v

/-- The sign of a number, and what stands behind it. -/
def splitSign (d : Directive) : List Char → List Char × List Char
  | '-' :: rest => (['-'], rest)
  | cs => (if d.plus then ['+'] else if d.blank then [' '] else [], cs)

/-- Characters with as many others around them as the width asks for. -/
def padded (d : Directive) (letter : Char) (conversion : Conversion) (cs : List Char) : List Char :=
  let isNumber := conversion = .whole ∨ conversion = .fraction
  let (sign, body) := if isNumber then splitSign d cs else ([], cs)
  let mark := if d.marked ∧ ['x', 'X', 'o'].contains letter then 2 else 0
  let missing := d.width - (sign.length + body.length)
  if d.left then sign ++ body ++ List.replicate missing ' '
  else if isNumber ∧ d.zeros then
    sign ++ body.take mark ++ List.replicate missing '0' ++ body.drop mark
  else List.replicate missing ' ' ++ sign ++ body

/-- The complaint about a letter that ends no directive. -/
def unknownLetter {α : Type} (c : Char) (place : Nat) : Except Raised α :=
  let shown := if 31 ≤ c.toNat ∧ c.toNat ≤ 126 then c else '?'
  valueError ("unsupported format character '" ++ shown.toString ++ "' (0x"
    ++ .ofList (digitsIn 16 c.toNat) ++ ") at index " ++ toString place)

/-! ### Texts -/

/-- What a text is filled in with. -/
structure Filling where
  /-- The values that were not filled in yet. -/
  args : List Value
  /-- The value that keys are looked up in. -/
  mapping : Option Value
deriving Repr

/-- The filling that a value gives. -/
def Filling.ofValue (h : Heap) (v : Value) : Filling :=
  match h.contents? v with
  | some (.tuple items) => ⟨items, Option.none⟩
  | some _ => ⟨[v], some v⟩
  | Option.none => ⟨[v], Option.none⟩

/-- The filling behind the key of a directive, and the characters behind the key. -/
def Filling.atKey (h : Heap) (f : Filling) : List Char → Except Raised (Filling × List Char)
  | '(' :: rest =>
    match f.mapping, readKey 0 rest with
    | Option.none, _ => typeError "format requires a mapping"
    | _, Option.none => valueError "incomplete format key"
    | some mapping, some (key, behind) => do
      let v ← mapping.index h (.str (.ofList key))
      return ({ f with args := [v] }, behind)
  | cs => .ok (f, cs)

/-- The characters that a directive stands for, the filling behind it and the characters behind it;
`size` is the length of the whole text. -/
def directive (h : Heap) (size : Nat) (f : Filling) (cs : List Char) :
    Except Raised (List Char × Filling × List Char) := do
  let (f, cs) ← f.atKey h cs
  let (d, cs) := readFlags {} cs
  let (d, args, cs) ← readWidth d f.args cs
  let (d, args, cs) ← readPrecision d args cs
  let cs :=
    match cs with
    | 'h' :: rest | 'l' :: rest | 'L' :: rest => rest
    | cs => cs
  match cs with
  | [] => incomplete
  | letter :: rest =>
    let (v, args) ← next args
    match conversion? letter with
    | Option.none => unknownLetter letter (size - rest.length - 1)
    | some conversion =>
      d.checkSize conversion
      let text ← converted h d letter conversion v
      return (padded d letter conversion text, { f with args := args }, rest)

/-- The characters of a text, filled in, behind some that are done and come the last one first; at
most `fuel` more are read. -/
def fillFrom (h : Heap) (size : Nat) :
    Nat → List Char → Filling → List Char → Except Raised (List Char)
  | 0, done, _, _ => .ok done.reverse
  | _ + 1, done, f, [] =>
    if f.args.isEmpty ∨ f.mapping.isSome then .ok done.reverse
    else typeError "not all arguments converted during string formatting"
  | fuel + 1, done, f, '%' :: '%' :: rest => fillFrom h size fuel ('%' :: done) f rest
  | fuel + 1, done, f, '%' :: rest =>
    match directive h size f rest with
    | .error e => .error e
    | .ok (text, f, behind) => fillFrom h size fuel (text.reverse ++ done) f behind
  | fuel + 1, done, f, c :: rest => fillFrom h size fuel (c :: done) f rest

/-- A text filled in with a value. -/
def fill (h : Heap) (s : String) (v : Value) : Except Raised String := do
  let cs := s.toList
  return .ofList (← fillFrom h cs.length (cs.length + 1) [] (.ofValue h v) cs)

end DocExamples.Value
