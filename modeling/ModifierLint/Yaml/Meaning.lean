/-
# The meaning of scalars

A scalar is a text with a type.  For each type that texts can have there is a reader, which answers
with the value or says why the text has none.
-/
import ModifierLint.Yaml.Tag
import ModifierLint.Number.Decimal
import ModifierLint.Text.Lowercase
import ModifierLint.Value

namespace ModifierLint.Yaml.Meaning

/-- The digits after the mark of a base, if the mark is there. -/
def withoutMark (base : Nat) : List Char → List Char
  | '0' :: c :: rest =>
    let mark := if base = 2 then 'b' else if base = 8 then 'o' else 'x'
    if base ≠ 10 && c.toLower = mark then rest else '0' :: c :: rest
  | s => s

/-- An integer in a base. -/
def integer (base : Nat) (s : List Char) : Except Fault Int :=
  let cs := Text.stripWhere Text.isBlank s
  let (negative, ds) := match cs with
    | '-' :: rest => (true, rest)
    | '+' :: rest => (false, rest)
    | rest => (false, rest)
  match Text.natural? base (withoutMark base ds) with
  | none => .error (.notInteger base (String.ofList s))
  | some n =>
    if base = 10 && ds.length > Text.mostDigits then .error (.tooManyDigits ds.length)
    else .ok (if negative then -n else n)

/-- The parts between colons. -/
def parts (s : List Char) : List (List Char) :=
  (String.ofList s).splitOn ":" |>.map String.toList

/-- The sign of a number and the rest. -/
def signOf : List Char → Bool × List Char
  | '-' :: rest => (true, rest)
  | '+' :: rest => (false, rest)
  | s => (false, s)

/-- An integer without its sign. -/
def magnitude (s : List Char) : Except Fault Int :=
  match s with
  | ['0'] => .ok 0
  | '0' :: 'b' :: rest => integer 2 rest
  | '0' :: 'x' :: rest => integer 16 rest
  | '0' :: _ => integer 8 s
  | [] => .error .emptyNumber
  | s =>
    if s.contains ':' then do
      let ns ← (parts s).mapM (integer 10)
      return ns.foldl (fun n m => n * 60 + m) 0
    else integer 10 s

/-- An integer: decimal, binary, octal, hexadecimal or in base sixty. -/
def intOf (text : String) : Except Fault Int := do
  let s := text.toList.filter (· != '_')
  if s.isEmpty then .error .emptyNumber
  let (negative, s) := signOf s
  let n ← magnitude s
  return if negative then -n else n

/-- A number in text. -/
def floatPart (s : List Char) : Except Fault Float :=
  match Number.read? s with
  | some x => .ok x
  | none => .error (.notFloat (String.ofList s))

/-- How many powers of sixty are numbers of double precision. -/
def mostSixties : Nat := 174

/-- The sum of the parts of a number in base sixty. -/
def sexagesimal (xs : List Float) : Except Fault Float :=
  if xs.length > mostSixties then .error .tooManyParts
  else .ok (xs.reverse.zipIdx.foldl (fun x (y, i) => x + y * Float.ofNat (Nat.pow 60 i)) 0.0)

/-- The word for what is no number. -/
def notANumber : String := ".nan"

/-- Whether the text is the word for what is no number; a sign does not count. -/
def isNotANumber (text : String) : Bool :=
  let s := (Text.lowercase (String.ofList (text.toList.filter (· != '_')))).toList
  String.ofList (signOf s).2 = notANumber

/-- A number with a point, an infinity or no number. -/
def floatOf (text : String) : Except Fault Float := do
  let s := (Text.lowercase (String.ofList (text.toList.filter (· != '_')))).toList
  if s.isEmpty then .error .emptyNumber
  let (negative, s) := signOf s
  let nan := String.ofList s = notANumber
  let x ←
    if String.ofList s = ".inf" then pure (1.0 / 0.0)
    else if nan then pure (0.0 / 0.0)
    else if s.contains ':' then sexagesimal (← (parts s).mapM floatPart)
    else floatPart s
  return if negative && !nan then -x else x

/-- A word for a truth value, in any case. -/
def boolOf (text : String) : Except Fault Bool :=
  let word := Text.lowercase text
  if ["yes", "true", "on"].contains word then .ok true
  else if ["no", "false", "off"].contains word then .ok false
  else .error (.notBool word)

/-- The value of a character of base 64. -/
def sextet? (c : Char) : Option Nat :=
  if 'A' ≤ c && c ≤ 'Z' then some (c.toNat - 65)
  else if 'a' ≤ c && c ≤ 'z' then some (c.toNat - 71)
  else if c.isDigit then some (c.toNat + 4)
  else if c = '+' then some 62
  else if c = '/' then some 63
  else none

/-- The octets of base 64; other characters are skipped.  `place` counts the characters of the
group, `left` holds the bits that no octet has taken, and `pads` counts the signs at its end. -/
def octetsOf (octets : List UInt8) (place left pads : Nat) :
    List Char → Except Fault (List UInt8)
  | [] => if place = 0 then .ok octets.reverse else .error .malformed
  | c :: rest =>
    if c = '=' then
      if place ≥ 2 && place + pads + 1 ≥ 4 then .ok octets.reverse
      else octetsOf octets place left (if place ≥ 2 then pads + 1 else pads) rest
    else
      match sextet? c with
      | none => octetsOf octets place left pads rest
      | some v =>
        if place = 0 then octetsOf octets 1 v 0 rest
        else
          let bits := 6 - 2 * place
          octetsOf (UInt8.ofNat (left * Nat.pow 4 place + v / Nat.pow 2 bits) :: octets) ((place + 1) % 4)
            (v % Nat.pow 2 bits) 0 rest

/-- Octets in base 64. -/
def binaryOf (text : String) : Except Fault (List UInt8) :=
  if text.toList.all (·.toNat < 0x80) then octetsOf [] 0 0 0 text.toList else .error .malformed

/-- The text of a fault of a day. -/
def dateFault : Date.Fault → String
  | .year => "year 0 is out of range"
  | .month => "month must be in 1..12"
  | .day => "day is out of range for month"

/-- A day of the calendar. -/
def dateOf (year month day : Nat) : Except Fault Date :=
  (Date.make year month day).mapError fun f => .dateRange (dateFault f)

/-- An offset in minutes; a day or more is too much. -/
def offsetOf (negative : Bool) (hours minutes : Nat) : Except Fault Int :=
  let total := hours * 60 + minutes
  if total < 1440 then .ok (if negative then -total else total)
  else
    let signed : Int := if negative then -total else total
    let seconds := 60 * signed.fmod 1440
    .error (.dateRange ("offset must be a timedelta strictly between -timedelta(hours=24) and " ++
      "timedelta(hours=24), not datetime.timedelta(days=" ++ Text.ofInt (signed.fdiv 1440) ++
      (if seconds = 0 then "" else ", seconds=" ++ Text.ofInt seconds) ++ ")."))

/-- A fraction of a second in microseconds. -/
def microseconds (ds : List Char) : Nat :=
  Number.ofDigits ((ds ++ List.replicate 6 '0').take 6)

/-- A day or a moment. -/
def momentOf (text : String) : Except Fault Value :=
  match Tag.moment? true (Tag.withoutFinalBreak text.toList) with
  | none => .error .notTimestamp
  | some m =>
    let year := Number.ofDigits m.year
    let month := Number.ofDigits m.month
    let day := Number.ofDigits m.day
    match m.time with
    | none => (dateOf year month day).map .date
    | some (hour, minute, second) => do
      let offset ← match m.offset with
        | none => pure none
        | some none => pure (some 0)
        | some (some (sign, hours, minutes)) =>
          some <$> offsetOf (sign = '-') (Number.ofDigits hours) (Number.ofDigits minutes)
      let date ← dateOf year month day
      let hour := Number.ofDigits hour
      let minute := Number.ofDigits minute
      let second := Number.ofDigits second
      if hour > 23 then .error (.dateRange "hour must be in 0..23")
      if minute > 59 then .error (.dateRange "minute must be in 0..59")
      if second > 59 then .error (.dateRange "second must be in 0..59")
      return .dateTime ⟨date, hour, minute, second, microseconds m.fraction, offset⟩

/-- The value of a text of a type; none if texts cannot have the type. -/
def ofText (tag : Tag) (text : String) : Except Fault Value :=
  match tag with
  | .null => .ok .null
  | .bool => (boolOf text).map .bool
  | .int => (intOf text).map .int
  | .float => (floatOf text).map .float
  | .binary => (binaryOf text).map .bytes
  | .timestamp => momentOf text
  | .str => .ok (.str text)
  | _ => .error .malformed

end ModifierLint.Yaml.Meaning
