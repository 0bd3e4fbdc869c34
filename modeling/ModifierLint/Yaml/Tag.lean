/-
# Tags

A tag names the type of a node.  A plain scalar without a tag gets one from its text: `yes` is a
truth value, `017` an integer, `2024-01-02` a day.  `Tag.ofPlain` is that rule; the patterns are
those of YAML 1.1.
-/
import ModifierLint.Yaml.Cursor

namespace ModifierLint.Yaml

/-- The types that documents can name. -/
inductive Tag
  | null
  | bool
  | int
  | float
  | binary
  | timestamp
  | omap
  | pairs
  | set
  | str
  | seq
  | map
  | merge
  | default
  | other (name : String)
  deriving Repr, DecidableEq

namespace Tag

/-- What the names of the standard tags begin with. -/
def standard : String := "tag:yaml.org,2002:"

/-- The standard tags by the rest of their names. -/
def byName : List (String × Tag) :=
  [("null", null), ("bool", bool), ("int", int), ("float", float), ("binary", binary),
    ("timestamp", timestamp), ("omap", omap), ("pairs", pairs), ("set", set), ("str", str),
    ("seq", seq), ("map", map), ("merge", merge), ("value", default)]

/-- The tag of a full name. -/
def ofName (name : String) : Tag :=
  match byName.find? fun (rest, _) => standard ++ rest == name with
  | some (_, tag) => tag
  | none => other name

/-! ## The types of plain scalars -/

/-- A digit or an underscore. -/
def isDigitMark (c : Char) : Bool :=
  c.isDigit || c = '_'

/-- The text without a sign. -/
def unsigned : List Char → List Char
  | '+' :: rest => rest
  | '-' :: rest => rest
  | s => s

/-- Words for truth values. -/
def isBoolWord (s : List Char) : Bool :=
  ["yes", "Yes", "YES", "no", "No", "NO", "true", "True", "TRUE", "false", "False", "FALSE",
    "on", "On", "ON", "off", "Off", "OFF"].contains (String.ofList s)

/-- Words for nothing. -/
def isNullWord (s : List Char) : Bool :=
  ["~", "null", "Null", "NULL", ""].contains (String.ofList s)

/-- Digits in base sixty behind a number: a colon and one or two digits, repeatedly.  What follows
the last of them is the answer, with whether there was any. -/
def sixties : Nat → Bool → List Char → Bool × List Char
  | 0, any, s => (any, s)
  | fuel + 1, any, s =>
    match s with
    | ':' :: a :: b :: rest =>
      if a.isDigit && a.toNat ≤ '5'.toNat && b.isDigit then sixties fuel true rest
      else if a.isDigit then sixties fuel true (b :: rest)
      else (any, s)
    | [':', a] => if a.isDigit then (true, []) else (any, s)
    | _ => (any, s)

/-- Decimal, octal, binary, hexadecimal and sexagesimal integers. -/
def isInt (s : List Char) : Bool :=
  match unsigned s with
  | '0' :: 'b' :: rest => !rest.isEmpty && rest.all fun c => c = '0' || c = '1' || c = '_'
  | '0' :: 'x' :: rest =>
    !rest.isEmpty && rest.all fun c =>
      isDigitMark c || ('a' ≤ c && c ≤ 'f') || ('A' ≤ c && c ≤ 'F')
  | '0' :: rest => rest.all fun c => ('0' ≤ c && c ≤ '7') || c = '_'
  | c :: rest =>
    c.isDigit &&
      let tail := rest.dropWhile isDigitMark
      tail.isEmpty || (sixties tail.length false tail) == (true, [])
  | [] => false

/-- Nothing, or the exponent of a number: a letter, a sign and digits. -/
def isExponent : List Char → Bool
  | [] => true
  | e :: sign :: d :: rest =>
    (e = 'e' || e = 'E') && (sign = '+' || sign = '-') && (d :: rest).all Char.isDigit
  | _ => false

/-- Numbers with a point, the infinities and the number that is none. -/
def isFloat (s : List Char) : Bool :=
  let infinity := [".inf", ".Inf", ".INF"].contains (String.ofList (unsigned s))
  let nan := [".nan", ".NaN", ".NAN"].contains (String.ofList s)
  let fraction := match s with
    | '.' :: d :: rest => d.isDigit && isExponent (rest.dropWhile isDigitMark)
    | _ => false
  let number := match unsigned s with
    | d :: rest =>
      d.isDigit &&
        let tail := rest.dropWhile isDigitMark
        match tail with
        | '.' :: after => isExponent (after.dropWhile isDigitMark)
        | _ =>
          match sixties tail.length false tail with
          | (true, '.' :: after) => after.all isDigitMark
          | _ => false
    | [] => false
  infinity || nan || fraction || number

/-- One or two digits at the front, and what follows. -/
def oneOrTwo : List Char → Option (List Char × List Char)
  | a :: b :: rest =>
    if a.isDigit && b.isDigit then some ([a, b], rest)
    else if a.isDigit then some ([a], b :: rest)
    else none
  | [a] => if a.isDigit then some ([a], []) else none
  | [] => none

/-- A number of digits at the front, and what follows. -/
def exactly (n : Nat) (s : List Char) : Option (List Char × List Char) :=
  let ds := s.take n
  if ds.length = n && ds.all Char.isDigit then some (ds, s.drop n) else none

/-- What follows an expected character. -/
def after (c : Char) : List Char → Option (List Char)
  | d :: rest => if c = d then some rest else none
  | [] => none

/-- The written parts of a moment; the offset has a sign, hours and minutes, or is `Z`. -/
structure Moment where
  year : List Char
  month : List Char
  day : List Char
  time : Option (List Char × List Char × List Char)
  fraction : List Char
  offset : Option (Option (Char × List Char × List Char))

/-- The offset of a moment. -/
def offset? (s : List Char) : Option (Option (Option (Char × List Char × List Char))) :=
  match s.dropWhile fun c => c = ' ' || c = '\t' with
  | [] => if s.isEmpty then some none else none
  | ['Z'] => some (some none)
  | sign :: rest =>
    if sign = '+' || sign = '-' then do
      let (hours, rest) ← oneOrTwo rest
      match rest with
      | [] => return some (some (sign, hours, []))
      | rest =>
        let (minutes, rest) ← exactly 2 (← after ':' rest)
        if rest.isEmpty then return some (some (sign, hours, minutes)) else none
    else none

/-- The parts of a day or moment.  The parts of a day alone may be short only where `lenient`. -/
def moment? (lenient : Bool) (s : List Char) : Option Moment := do
  let (year, s) ← exactly 4 s
  let (month, s) ← oneOrTwo (← after '-' s)
  let (day, s) ← oneOrTwo (← after '-' s)
  if s.isEmpty then
    if lenient || (month.length = 2 && day.length = 2) then
      return ⟨year, month, day, none, [], none⟩
    else none
  else
    let s ← match s with
      | 'T' :: rest => some rest
      | 't' :: rest => some rest
      | c :: rest =>
        if c = ' ' || c = '\t' then some (rest.dropWhile fun c => c = ' ' || c = '\t') else none
      | [] => none
    let (hour, s) ← oneOrTwo s
    let (minute, s) ← exactly 2 (← after ':' s)
    let (second, s) ← exactly 2 (← after ':' s)
    let (fraction, s) := match s with
      | '.' :: rest => (rest.takeWhile Char.isDigit, rest.dropWhile Char.isDigit)
      | s => ([], s)
    return ⟨year, month, day, some (hour, minute, second), fraction, ← offset? s⟩

/-- A text without the line feed that may follow it; a line feed alone stays. -/
def withoutFinalBreak (s : List Char) : List Char :=
  if s.length > 1 && s.getLast? = some '\n' then s.dropLast else s

/-- The type of a plain scalar. -/
def ofPlain (text : String) : Tag :=
  let s := withoutFinalBreak text.toList
  let text := String.ofList s
  if isBoolWord s then bool
  else if isFloat s then float
  else if isInt s then int
  else if text = "<<" then merge
  else if isNullWord s then null
  else if (moment? false s).isSome then timestamp
  else if text = "=" then default
  else if text = "!" || text = "&" || text = "*" then other (standard ++ "yaml")
  else str

end Tag

end ModifierLint.Yaml
