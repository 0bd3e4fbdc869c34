/-
# Reading moments

A moment is written as a day, a separator, a time and perhaps an offset from UTC, as a day alone,
which stands for its first moment, or as the number of seconds or milliseconds since 1970.  If none
of these can be read from a text, `dayParsing` says why it is no day.  Texts are read octet by
octet.
-/
import ModifierLint.Schema.Read

namespace ModifierLint.Schema

open Checked (complain)

/-! ## Text -/

/-- The octets of a text, each as the character with its number. -/
def octets (s : String) : List Char :=
  s.toUTF8.toList.map fun octet => Char.ofNat octet.toNat

/-- The number of `n` digits at the front, and what follows them. -/
def digits? (n : Nat) (s : List Char) : Option (Nat × List Char) :=
  let ds := s.take n
  if ds.length = n && ds.all Char.isDigit then
    (Text.natural? 10 ds).map fun value => (value, s.drop n)
  else none

/-- What follows an expected character. -/
def following? (c : Char) : List Char → Option (List Char)
  | d :: rest => if c = d then some rest else none
  | [] => none

/-- The value, or a fault where there is none. -/
def orFault {α : Type} (fault : DayFault) : Option α → Except DayFault α
  | some a => .ok a
  | none => .error fault

/-- A day at the front of a text, and what follows it. -/
def dayAhead (s : List Char) : Except DayFault (Date × List Char) := do
  if s.length < 10 then .error .tooShort
  let (year, s) ← orFault .yearText (digits? 4 s)
  let (month, s) ← orFault .monthText (digits? 2 (← orFault .separator (following? '-' s)))
  let (day, s) ← orFault .dayText (digits? 2 (← orFault .separator (following? '-' s)))
  if month < 1 || 12 < month then .error .month
  if day < 1 || daysIn year month < day then .error .day
  return (⟨year, month, day⟩, s)

/-- A fraction of a second in microseconds; further digits are cut off. -/
def fraction? (s : List Char) : Option (Nat × List Char) :=
  match s with
  | mark :: rest =>
    if mark = '.' || mark = ',' then
      let ds := rest.takeWhile Char.isDigit
      if ds.isEmpty then none
      else (digits? 6 ((ds ++ List.replicate 6 '0').take 6)).map fun (value, _) =>
        (value, rest.dropWhile Char.isDigit)
    else some (0, s)
  | [] => some (0, s)

/-- A number below a bound in two digits, and what follows it. -/
def below? (bound : Nat) (s : List Char) : Option (Nat × List Char) := do
  let (value, rest) ← digits? 2 s
  if value < bound then some (value, rest) else none

/-- Hours and minutes at the end of a text, in minutes. -/
def span? (s : List Char) : Option Int := do
  let (hours, s) ← below? 24 s
  let (minutes, s) ← below? 60 ((following? ':' s).getD s)
  if s.isEmpty then some (hours * 60 + minutes) else none

/-- An offset from UTC in minutes at the end of a text, or nothing.  The minus sign U+2212 has three
octets. -/
def offset? : List Char → Option (Option Int)
  | [] => some none
  | ['Z'] | ['z'] => some (some 0)
  | '+' :: s => (span? s).map some
  | '-' :: s | '\xe2' :: '\x88' :: '\x92' :: s => (span? s).map fun m => some (-m)
  | _ => none

/-- A time of a day, with what follows it as its offset. -/
def timeOn? (date : Date) (s : List Char) : Option DateTime := do
  let (hour, s) ← below? 24 s
  let (minute, s) ← below? 60 (← following? ':' s)
  let (second, microsecond, s) ← match s with
    | ':' :: s => do
      let (second, s) ← below? 60 s
      let (microsecond, s) ← fraction? s
      pure (second, microsecond, s)
    | s => pure (0, 0, s)
  return ⟨date, hour, minute, second, microsecond, ← offset? s⟩

/-- Whether the character stands between a day and a time. -/
def isSeparator (c : Char) : Bool :=
  c = 'T' || c = 't' || c = ' ' || c = '_'

/-! ## Numbers -/

/-- Numbers beyond this one count milliseconds. -/
def mostSeconds : Nat := 20000000000

/-- The microseconds since 1970 at the start of the year before the first. -/
def earliest : Int := -62167219200000000

/-- The microseconds since 1970 at the end of 9999. -/
def latest : Int := 253402300799999999

/-- The first year is 1. -/
def inSomeYear (t : DateTime) : Except MomentFault DateTime :=
  if t.date.year = 0 then .error .yearZero else .ok t

/-- The moment some microseconds after the start of 1970. -/
def ofMicroseconds (n : Int) : Except MomentFault DateTime :=
  if n < earliest then .error .tooEarly
  else if n > latest then .error .tooLate
  else inSomeYear (.ofMicroseconds n)

/-- The moment that an integer stands for. -/
def ofInteger (n : Int) : Except MomentFault DateTime :=
  ofMicroseconds (n * if n.natAbs > mostSeconds then 1000 else 1000000)

/-- The moment that a number stands for, to the nearest microsecond. -/
def ofNumber (x : Float) : Except MomentFault DateTime :=
  let seconds := if x.abs > mostSeconds.toFloat then x / 1000.0 else x
  let whole := seconds.floor
  match Number.Binary64.ofFloat whole with
  | some b =>
    let fraction := ((seconds - whole) * 1000000.0).round.toUInt64.toNat
    ofMicroseconds (b.truncate * 1000000 + fraction)
  | none =>
    if x.isNaN then .error .notANumber
    else if x < 0 then .error .tooEarly
    else .error .tooLate

/-- A number with a point in text.  The digits behind the point are added one after the other. -/
def decimal? (s : List Char) : Option Float :=
  let (negative, s) := match s with
    | '-' :: s => (true, s)
    | '+' :: s => (false, s)
    | s => (false, s)
  match s.dropWhile Char.isDigit with
  | '.' :: fraction =>
    if fraction.all Char.isDigit then
      let whole := ((Text.natural? 10 (s.takeWhile Char.isDigit)).getD 0).toFloat
      let add (x : Float × Float) (d : Char) :=
        (x.1 + ((Text.digitValue? d).getD 0).toFloat / x.2, x.2 * 10.0)
      let (x, _) := fraction.foldl add (whole, 10.0)
      some (if negative then -x else x)
    else none
  | _ => none

/-! ## Values -/

/-- A moment in text. -/
def momentInText (s : List Char) : Except Complaint DateTime :=
  match dayAhead s with
  | .ok (date, []) => (inSomeYear date.midnight).mapError .dateTimeParsing
  | .ok (date, c :: rest) =>
    match if isSeparator c then timeOn? date rest else none with
    | some t => (inSomeYear t).mapError .dateTimeParsing
    | none => .error (.dayParsing .moreText)
  | .error fault =>
    match (plainInteger? s).filter fun n => n.natAbs < Nat.pow 2 63 with
    | some n =>
      (ofInteger n).mapError fun
        | .yearZero => .dateTimeParsing .yearZero
        | fault => .dayParsing (.number fault)
    | none =>
      match (decimal? s).map ofNumber with
      | some (.ok t) => .ok t
      | some (.error .yearZero) => .error (.dateTimeParsing .yearZero)
      | _ => .error (.dayParsing fault)

/-- Whether the integer is nearest to a finite number of double precision. -/
def isFinite (n : Int) : Bool :=
  n.natAbs < Nat.pow 2 1024 - Nat.pow 2 970

/-- A moment. -/
def moment : Value → Checked DateTime
  | .dateTime t => pure t
  | .date d => pure d.midnight
  | .int n =>
    if isFinite n then ofExcept ((ofInteger n).mapError .dateTimeParsing)
    else complain .dateTimeType
  | .float x => ofExcept ((ofNumber x).mapError .dateTimeParsing)
  | v =>
    match text? v with
    | some (.ok s) => ofExcept (momentInText (octets s))
    | _ => complain .dateTimeType

end ModifierLint.Schema
