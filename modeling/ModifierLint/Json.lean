/-
# JSON

`Json.render` writes a value in printable ASCII, on one line or with one item per line and an
indentation per level.  Not every value has a JSON text: `Json.refusal?` says what stands in the
way of the first part that has none, and `Json.write` writes the others.  `Json.parse` reads a JSON
text; it keeps the order of an object's fields and tells integers (no fraction, no exponent) from
other numbers.
-/
import ModifierLint.Value

namespace ModifierLint.Json

/-! ## Writing -/

/-- One UTF-16 unit as an escape of four hexadecimal digits. -/
def unitEscape (unit : Nat) : List Char :=
  '\\' :: 'u' :: Text.Quoted.hex 4 unit

/-- The written form of one character inside a string. -/
def escape (c : Char) : List Char :=
  if c = '\"' then ['\\', '\"']
  else if c = '\\' then ['\\', '\\']
  else if c = '\n' then ['\\', 'n']
  else if c = '\r' then ['\\', 'r']
  else if c = '\t' then ['\\', 't']
  else if c = '\x0c' then ['\\', 'f']
  else if c = '\x08' then ['\\', 'b']
  else if 0x20 ≤ c.toNat && c.toNat < 0x7F then [c]
  else if c.toNat < 0x10000 then unitEscape c.toNat
  else unitEscape (0xD800 + (c.toNat - 0x10000) / 0x400) ++
    unitEscape (0xDC00 + (c.toNat - 0x10000) % 0x400)

/-- A string between quotes. -/
def quote (s : String) : String :=
  String.ofList ('\"' :: s.toList.flatMap escape ++ ['\"'])

/-- The written form of a number; the three that are not finite have names. -/
def number (x : Float) : String :=
  if x.isNaN then "NaN"
  else if (Number.Binary64.ofFloat x).isNone then (if x < 0 then "-Infinity" else "Infinity")
  else Number.render x

/-- How items of a list or object are set: on one line, or on lines of their own that are indented
by `indent` spaces per level. -/
inductive Layout
  | line
  | block (indent : Nat)
  deriving DecidableEq

/-- The text before the first item at a level. -/
def Layout.opening : Layout → Nat → String
  | .line, _ => ""
  | .block indent, level => "\n" ++ String.ofList (List.replicate (indent * level) ' ')

/-- The text between two items at a level. -/
def Layout.separator : Layout → Nat → String
  | .line, _ => ", "
  | .block indent, level => "," ++ Layout.opening (.block indent) level

/-- Items between brackets; no items need no lines. -/
def enclose (layout : Layout) (level : Nat) (left right : String) (items : List String) : String :=
  if items.isEmpty then left ++ right
  else
    left ++ layout.opening (level + 1) ++
      String.intercalate (layout.separator (level + 1)) items ++
    layout.opening level ++ right

/-- The name of an object's field. -/
def fieldName : Value → String
  | .str s => s
  | .null => "null"
  | .bool b => if b then "true" else "false"
  | .float x => number x
  | v => v.text

mutual

/-- The text of a value at a level; values that JSON lacks are written as texts. -/
def renderAt (layout : Layout) (level : Nat) : Value → String
  | .null => "null"
  | .bool b => if b then "true" else "false"
  | .int n => Text.ofInt n
  | .float x => number x
  | .str s => quote s
  | .list items | .tuple items =>
    enclose layout level "[" "]" (renderItems layout (level + 1) items)
  | .map entries => enclose layout level "\x7b" "\x7d" (renderFields layout (level + 1) entries)
  | .date d => quote d.iso
  | .dateTime t => quote (t.iso " ")
  | .bytes octets => quote (Value.bytesText octets)
  | .set items => quote (Value.quoted (.set items))

/-- The texts of the items. -/
def renderItems (layout : Layout) (level : Nat) : List Value → List String
  | [] => []
  | v :: rest => renderAt layout level v :: renderItems layout level rest

/-- The texts of the fields. -/
def renderFields (layout : Layout) (level : Nat) : List (Value × Value) → List String
  | [] => []
  | (k, v) :: rest =>
    (quote (fieldName k) ++ ": " ++ renderAt layout level v) :: renderFields layout level rest

end

/-- The JSON text of a value. -/
def render (layout : Layout) (v : Value) : String :=
  renderAt layout 0 v

/-- Why a value has no JSON text. -/
inductive Refusal
  /-- An integer has more digits than texts may have of it. -/
  | digits
  /-- A key is no text, number, truth value or null. -/
  | key
  deriving Repr, DecidableEq

/-- What stands in the way of a field's name. -/
def nameRefusal? : Value → Option Refusal
  | .str _ | .null | .bool _ | .float _ => none
  | .int n => if Text.isWritable n then none else some .digits
  | _ => some .key

mutual

/-- What stands in the way of the text, at the first part that cannot be written. -/
def refusal? : Value → Option Refusal
  | .int n => if Text.isWritable n then none else some .digits
  | .list items | .tuple items => itemsRefusal? items
  | .map entries => fieldsRefusal? entries
  | .set items => if Value.areWritable items then none else some .digits
  | _ => none

/-- What stands in the way of the items. -/
def itemsRefusal? : List Value → Option Refusal
  | [] => none
  | v :: rest => (refusal? v).or (itemsRefusal? rest)

/-- What stands in the way of the fields. -/
def fieldsRefusal? : List (Value × Value) → Option Refusal
  | [] => none
  | (k, v) :: rest => ((nameRefusal? k).or (refusal? v)).or (fieldsRefusal? rest)

end

/-- The JSON text of a value, if it has one. -/
def write (layout : Layout) (v : Value) : Except Refusal String :=
  match refusal? v with
  | none => .ok (render layout v)
  | some r => .error r

/-! ## Reading -/

/-- JSON's own white space. -/
def isSpace (c : Char) : Bool :=
  c = ' ' || c = '\n' || c = '\r' || c = '\t'

/-- Four hexadecimal digits. -/
def unit? : List Char → Option (Nat × List Char)
  | a :: b :: c :: d :: rest => do
    let a ← Text.baseDigit? 16 a
    let b ← Text.baseDigit? 16 b
    let c ← Text.baseDigit? 16 c
    let d ← Text.baseDigit? 16 d
    return (((a * 16 + b) * 16 + c) * 16 + d, rest)
  | _ => none

/-- The rest of an escape after its backslash: a character and what follows. -/
def unescape? : List Char → Option (Char × List Char)
  | 'n' :: rest => some ('\n', rest)
  | 'r' :: rest => some ('\r', rest)
  | 't' :: rest => some ('\t', rest)
  | 'b' :: rest => some ('\x08', rest)
  | 'f' :: rest => some ('\x0c', rest)
  | 'u' :: rest => do
    let (high, rest) ← unit? rest
    if 0xD800 ≤ high && high < 0xDC00 then
      match rest with
      | '\\' :: 'u' :: more =>
        let (low, rest) ← unit? more
        if 0xDC00 ≤ low && low < 0xE000 then
          return (Char.ofNat (0x10000 + (high - 0xD800) * 0x400 + (low - 0xDC00)), rest)
        else none
      | _ => none
    else if 0xDC00 ≤ high && high < 0xE000 then none
    else return (Char.ofNat high, rest)
  | c :: rest => if c = '\"' || c = '\\' || c = '/' then some (c, rest) else none
  | [] => none

/-- The characters of a string up to its closing quote. -/
def stringBody : Nat → List Char → List Char → Option (String × List Char)
  | 0, _, _ => none
  | _ + 1, _, [] => none
  | fuel + 1, acc, c :: rest =>
    if c = '\"' then some (String.ofList acc.reverse, rest)
    else if c = '\\' then
      (unescape? rest).bind fun (d, rest) => stringBody fuel (d :: acc) rest
    else if c.toNat < 0x20 then none
    else stringBody fuel (c :: acc) rest

/-- The decimal digits at the front. -/
def digits (cs : List Char) : List Char × List Char :=
  (cs.takeWhile Char.isDigit, cs.dropWhile Char.isDigit)

/-- The natural number that ASCII digits write. -/
def naturalOf (ds : List Char) : Nat :=
  ds.foldl (fun n d => n * 10 + (d.toNat - 48)) 0

/-- The double nearest to `digits * 10 ^ exponent`. -/
def decimal (negative : Bool) (ds : List Char) (exponent : Int) : Float :=
  let x :=
    if exponent < 0 then Float.ofScientific (naturalOf ds) true exponent.natAbs
    else Float.ofScientific (naturalOf ds) false exponent.natAbs
  if negative then -x else x

/-- The exponent of a number, zero if none is written. -/
def exponentPart : List Char → Option (Int × Bool × List Char)
  | c :: rest =>
    if c = 'e' || c = 'E' then
      let (negative, rest) := match rest with
        | '-' :: more => (true, more)
        | '+' :: more => (false, more)
        | more => (false, more)
      let (ds, rest) := digits rest
      if ds.isEmpty then none
      else
        let e : Int := naturalOf ds
        some (if negative then -e else e, true, rest)
    else some (0, false, c :: rest)
  | [] => some (0, false, [])

/-- A number without its sign. -/
def unsigned? (negative : Bool) (cs : List Char) : Option (Value × List Char) := do
  let (whole, rest) := digits cs
  if whole.isEmpty || (whole.length > 1 && whole.head? = some '0') then none
  let (fraction, hasFraction, rest) ← match rest with
    | '.' :: more =>
      let (ds, rest) := digits more
      if ds.isEmpty then none else some (ds, true, rest)
    | rest => some ([], false, rest)
  let (e, hasExponent, rest) ← exponentPart rest
  if hasFraction || hasExponent then
    return (.float (decimal negative (whole ++ fraction) (e - fraction.length)), rest)
  else
    let n : Int := naturalOf whole
    return (.int (if negative then -n else n), rest)

/-- The rest of the text after an expected word. -/
def word? : List Char → List Char → Option (List Char)
  | [], rest => some rest
  | w :: ws, c :: rest => if w = c then word? ws rest else none
  | _ :: _, [] => none

mutual

/-- A value and what follows it. -/
def value? : Nat → List Char → Option (Value × List Char)
  | 0, _ => none
  | fuel + 1, cs =>
    match cs.dropWhile isSpace with
    | [] => none
    | c :: rest =>
      if c = '[' then
        match rest.dropWhile isSpace with
        | ']' :: rest => some (.list [], rest)
        | rest => (items? fuel [] rest).map fun (vs, rest) => (.list vs, rest)
      else if c = '\x7b' then
        match rest.dropWhile isSpace with
        | '\x7d' :: rest => some (.map [], rest)
        | rest => (fields? fuel [] rest).map fun (kvs, rest) => (.map kvs, rest)
      else if c = '\"' then
        (stringBody (rest.length + 1) [] rest).map fun (s, rest) => (.str s, rest)
      else if c = 't' then (word? ['r', 'u', 'e'] rest).map fun rest => (.bool true, rest)
      else if c = 'f' then (word? ['a', 'l', 's', 'e'] rest).map fun rest => (.bool false, rest)
      else if c = 'n' then (word? ['u', 'l', 'l'] rest).map fun rest => (.null, rest)
      else if c = 'N' then (word? ['a', 'N'] rest).map fun rest => (.float (0.0 / 0.0), rest)
      else if c = '-' then
        match word? "Infinity".toList rest with
        | some rest => some (.float (-1.0 / 0.0), rest)
        | none => unsigned? true rest
      else if c = 'I' then
        (word? "nfinity".toList rest).map fun rest => (.float (1.0 / 0.0), rest)
      else unsigned? false (c :: rest)

/-- The items of a list after its bracket. -/
def items? : Nat → List Value → List Char → Option (List Value × List Char)
  | 0, _, _ => none
  | fuel + 1, acc, cs =>
    match value? fuel cs with
    | none => none
    | some (v, rest) =>
      match rest.dropWhile isSpace with
      | ',' :: rest => items? fuel (v :: acc) rest
      | ']' :: rest => some ((v :: acc).reverse, rest)
      | _ => none

/-- The fields of an object after its brace. -/
def fields? :
    Nat → List (Value × Value) → List Char → Option (List (Value × Value) × List Char)
  | 0, _, _ => none
  | fuel + 1, acc, cs =>
    match cs.dropWhile isSpace with
    | '\"' :: rest =>
      match stringBody (rest.length + 1) [] rest with
      | none => none
      | some (name, rest) =>
        match rest.dropWhile isSpace with
        | ':' :: rest =>
          match value? fuel rest with
          | none => none
          | some (v, rest) =>
            match rest.dropWhile isSpace with
            | ',' :: rest => fields? fuel ((.str name, v) :: acc) rest
            | '\x7d' :: rest => some (((.str name, v) :: acc).reverse, rest)
            | _ => none
        | _ => none
    | _ => none

end

/-- The value of a JSON text. -/
def parse (s : String) : Option Value :=
  let cs := s.toList
  match value? (cs.length + 1) cs with
  | some (v, rest) => if (rest.dropWhile isSpace).isEmpty then some v else none
  | none => none

end ModifierLint.Json
