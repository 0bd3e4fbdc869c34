/-
# Messages with values put in

A message may hold conversions, each of which is replaced by the text of a value: a percent sign,
the key of the value in parentheses, flags, a width, a precision, and a letter that says what kind
of value is expected and how it is written.  Two percent signs stand for one.

Values are taken in order, or by their keys if there is one mapping of them.  All values must be
used if they are taken in order.  `interpolate` gives no text if a value is missing or of the wrong
kind, if one is left over, if a conversion is malformed, or if a decimal number has too many digits.
-/
import ModifierLint.Number.Decimal
import ModifierLint.Value

namespace ModifierLint.Interpolation

/-- The flags of a conversion. -/
structure Flags where
  /-- The text stands at the left of its field. -/
  left : Bool := false
  /-- Positive numbers have a sign. -/
  plus : Bool := false
  /-- A blank stands where a sign would. -/
  blank : Bool := false
  /-- The base of a number is marked, and a decimal point is always written. -/
  marked : Bool := false
  /-- Numbers are filled up with zeros. -/
  zeros : Bool := false
  deriving Repr, DecidableEq

/-- Where values come from. -/
inductive Source
  /-- Values in order. -/
  | inOrder (values : List Value)
  /-- A mapping, which counts as one value until it is taken or a key is named. -/
  | byKey (entries : List (Value × Value)) (next : Option Value)

namespace Source

/-- The next value. -/
def take : Source → Option (Value × Source)
  | inOrder [] => none
  | inOrder (v :: rest) => some (v, .inOrder rest)
  | byKey _ none => none
  | byKey entries (some v) => some (v, .byKey entries none)

/-- Makes the value under a key the next one. -/
def name (key : String) : Source → Option Source
  | inOrder _ => none
  | byKey entries _ => (Value.get? entries key).map fun v => .byKey entries (some v)

/-- Whether no value is left that should have been used. -/
def isUsedUp : Source → Bool
  | inOrder values => values.isEmpty
  | byKey _ _ => true

end Source

/-- The source that values are taken from: a single mapping with entries is looked up by key. -/
def sourceOf : List Value → Source
  | [.map (e :: entries)] => .byKey (e :: entries) (some (.map (e :: entries)))
  | values => .inOrder values

/-! ## Reading conversions -/

/-- The key after an opening parenthesis, in which parentheses may be nested, and what follows. -/
def key (found : List Char) : Nat → List Char → Option (String × List Char)
  | _, [] => none
  | depth, '(' :: rest => key ('(' :: found) (depth + 1) rest
  | 0, ')' :: rest => some (String.ofList found.reverse, rest)
  | depth + 1, ')' :: rest => key (')' :: found) depth rest
  | depth, c :: rest => key (c :: found) depth rest

/-- Flags and what follows. -/
def flags (found : Flags) : List Char → Flags × List Char
  | '-' :: rest => flags { found with left := true } rest
  | '+' :: rest => flags { found with plus := true } rest
  | ' ' :: rest => flags { found with blank := true } rest
  | '#' :: rest => flags { found with marked := true } rest
  | '0' :: rest => flags { found with zeros := true } rest
  | s => (found, s)

/-- The greatest width. -/
def widthLimit : Nat := Nat.pow 2 63 - 1

/-- The greatest precision. -/
def precisionLimit : Nat := Nat.pow 2 31 - 1

/-- A number that is written out, or zero, and what follows. -/
def number (s : List Char) : Nat × List Char :=
  let ds := s.takeWhile Char.isDigit
  (ds.foldl (fun n c => 10 * n + (c.toNat - '0'.toNat)) 0, s.drop ds.length)

/-- A number that is written out or, for a star, taken from the values. -/
def measure (source : Source) : List Char → Option (Int × Source × List Char)
  | '*' :: rest => do
    let (v, source) ← source.take
    match v with
    | .int n => return (n, source, rest)
    | .bool b => return (if b then 1 else 0, source, rest)
    | _ => none
  | s => let (n, rest) := number s; some (n, source, rest)

/-- A conversion. -/
structure Conversion where
  flags : Flags
  width : Nat
  precision : Option Nat
  letter : Char
  deriving Repr, DecidableEq

/-- The conversion after a percent sign, the values that it leaves, and what follows. -/
def conversion (source : Source) (s : List Char) : Option (Conversion × Source × List Char) := do
  let (source, s) ← match s with
    | '(' :: rest => do
      let (k, rest) ← key [] 0 rest
      pure (← source.name k, rest)
    | s => pure (source, s)
  let (fs, s) := flags {} s
  let (width, source, s) ← measure source s
  let fs := if width < 0 then { fs with left := true } else fs
  guard (width.natAbs ≤ widthLimit)
  let (precision, source, s) ← match s with
    | '.' :: rest => do
      let (n, source, rest) ← measure source rest
      guard (n ≤ precisionLimit)
      pure (some n.toNat, source, rest)
    | s => pure (none, source, s)
  let s := match s with
    | c :: rest => if c = 'h' || c = 'l' || c = 'L' then rest else c :: rest
    | [] => []
  match s with
  | [] => none
  | letter :: rest =>
    return ({ flags := fs, width := width.natAbs, precision, letter }, source, rest)

/-! ## Writing values -/

/-- A number in pieces: the sign, the mark of the base, and the rest. -/
structure Numeral where
  negative : Bool
  mark : String
  body : String
  deriving Repr

/-- Digits with zeros before them up to a number of digits. -/
def atLeast (count : Nat) (digits : String) : String :=
  String.ofList (List.replicate (count - digits.length) '0') ++ digits

/-- An integer in a base. -/
def integer (c : Conversion) (base : Nat) (mark : String) (n : Int) : Numeral where
  negative := n < 0
  mark := if c.flags.marked then mark else ""
  body := atLeast (c.precision.getD 0) (String.ofList (Nat.toDigits base n.natAbs))

/-- The texts of the numbers that are not finite. -/
def notFinite (x : Float) : String := if x.isNaN then "nan" else "inf"

/-- The text of a number with a decimal point, where there is none before the exponent. -/
def withPoint (s : String) : String :=
  let digits := s.toList.takeWhile Char.isDigit
  if (s.toList.drop digits.length).head? = some '.' then s
  else String.ofList (digits ++ ['.'] ++ s.toList.drop digits.length)

/-- A number with a given count of significant digits, of which trailing zeros are kept. -/
def generalPadded (count : Nat) (b : Number.Binary64) : String :=
  let count := max count 1
  let (n, e) := Number.significant count b
  if n = 0 then "0." ++ String.ofList (List.replicate (count - 1) '0')
  else if e < -4 || e ≥ count then withPoint (Number.scientific (count - 1) b)
  else withPoint (Number.fixed (count - 1 - e).toNat b)

/-- A floating-point number. -/
def floating (c : Conversion) (x : Float) : Numeral :=
  let precision := c.precision.getD 6
  let body := match Number.Binary64.ofFloat x with
    | none => notFinite x
    | some b =>
      let b := { b with negative := false }
      match c.letter.toLower with
      | 'e' =>
        let s := Number.scientific precision b
        if c.flags.marked then withPoint s else s
      | 'f' =>
        let s := Number.fixed precision b
        if c.flags.marked then withPoint s else s
      | _ => if c.flags.marked then generalPadded precision b else Number.general precision b
  { negative := x < 0 || (x == 0 && 1 / x < 0)
    mark := ""
    body := if c.letter.isUpper then body.map Char.toUpper else body }

/-- Lays a number out in its field: zeros go after the sign and the mark of the base. -/
def layNumeral (c : Conversion) (n : Numeral) : String :=
  let sign :=
    if n.negative then "-" else if c.flags.plus then "+" else if c.flags.blank then " " else ""
  let missing := c.width - (sign.length + n.mark.length + n.body.length)
  let pad (fill : Char) := String.ofList (List.replicate missing fill)
  if c.flags.left then
    sign ++ n.mark ++ n.body ++ pad ' '
  else if c.flags.zeros then sign ++ n.mark ++ pad '0' ++ n.body
  else pad ' ' ++ sign ++ n.mark ++ n.body

/-- Lays a text out in its field, after cutting it. -/
def layText (c : Conversion) (s : String) : String :=
  let s := match c.precision with
    | none => s
    | some n => String.ofList (s.toList.take n)
  let pad := String.ofList (List.replicate (c.width - s.length) ' ')
  if c.flags.left then s ++ pad else pad ++ s

/-- The integer that a value is, without a fraction. -/
def wholeNumber : Value → Option Int
  | .int n => some n
  | .bool b => some (if b then 1 else 0)
  | .float x => (Number.Binary64.ofFloat x).map Number.Binary64.truncate
  | _ => none

/-- The integer that a value is. -/
def exactInteger : Value → Option Int
  | .float _ => none
  | v => wholeNumber v

/-- The floating-point number that a value is. -/
def floatOf : Value → Option Float
  | .float x => some x
  | v => do
    let n ← exactInteger v
    let x := Number.ofDecimal n.natAbs 0
    guard (Number.Binary64.ofFloat x).isSome
    return if n < 0 then -x else x

/-- The character that a value is. -/
def characterOf : Value → Option String
  | .str s => if s.length = 1 then some s else none
  | v => do
    let n ← exactInteger v
    guard (0 ≤ n && n.toNat.isValidChar)
    return (Char.ofNat n.toNat).toString

/-- The value, if it has a text. -/
def written (v : Value) : Option Value :=
  if v.isWritable then some v else none

/-- The text of a value by a conversion. -/
def convert (c : Conversion) (v : Value) : Option String :=
  match c.letter with
  | 's' => (written v).map fun v => layText c v.text
  | 'r' => (written v).map fun v => layText c v.quoted
  | 'a' => (written v).map fun v => layText c (Text.Quoted.asciiOnly v.quoted)
  | 'c' => (characterOf v).map (layText { c with precision := none })
  | 'd' | 'i' | 'u' => do
    let n ← wholeNumber v
    guard (Text.isWritable n)
    return layNumeral c (integer c 10 "" n)
  | 'o' => (exactInteger v).map fun n => layNumeral c (integer c 8 "0o" n)
  | 'x' => (exactInteger v).map fun n => layNumeral c (integer c 16 "0x" n)
  | 'X' => (exactInteger v).map fun n =>
    let numeral := integer c 16 "0X" n
    layNumeral c { numeral with body := numeral.body.map Char.toUpper }
  | 'e' | 'E' | 'f' | 'F' | 'g' | 'G' => (floatOf v).map fun x => layNumeral c (floating c x)
  | _ => none

/-- Replaces conversions from left to right.  `fuel` is at least the length of the message. -/
def expand (written : List Char) (source : Source) : Nat → List Char → Option String
  | _, [] => if source.isUsedUp then some (String.ofList written.reverse) else none
  | 0, _ => none
  | fuel + 1, '%' :: '%' :: rest => expand ('%' :: written) source fuel rest
  | fuel + 1, '%' :: rest => do
    let (c, source, rest) ← conversion source rest
    let (v, source) ← source.take
    let s ← convert c v
    expand (s.toList.reverse ++ written) source fuel rest
  | fuel + 1, c :: rest => expand (c :: written) source fuel rest

/-- The message with values put in; a message without values stands for itself. -/
def interpolate (message : String) (values : List Value) : Option String :=
  if values.isEmpty then some message
  else expand [] (sourceOf values) message.length message.toList

end ModifierLint.Interpolation
