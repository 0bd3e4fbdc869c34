/-
# Days and moments

A day is a year, a month and a day of the Gregorian calendar, and a moment is a time on a day, with
an offset from UTC if one is known.
-/
import ModifierLint.Text.Decimal

namespace ModifierLint

/-- A calendar day. -/
structure Date where
  year : Nat
  month : Nat
  day : Nat
  deriving Repr, DecidableEq, Inhabited

/-- The number of days of a month. -/
def daysIn (year month : Nat) : Nat :=
  if month = 2 then
    if year % 4 = 0 && (year % 100 ≠ 0 || year % 400 = 0) then 29 else 28
  else if [4, 6, 9, 11].contains month then 30
  else 31

/-- What is wrong with the numbers of a day. -/
inductive Date.Fault
  | year
  | month
  | day
  deriving Repr, DecidableEq

/-- The day with a year, a month and a day of the month; the first year is 1. -/
def Date.make (year month day : Nat) : Except Date.Fault Date :=
  if year = 0 then .error .year
  else if month < 1 || 12 < month then .error .month
  else if day < 1 || daysIn year month < day then .error .day
  else .ok ⟨year, month, day⟩

/-- The day that is `n` days after 1 January 1970.  Years are taken from March to February, so that
the day that only some of them have is the last; 400 of them have 146097 days. -/
def Date.ofDayNumber (n : Int) : Date :=
  let sinceMarch := n + 719468
  let era := sinceMarch.fdiv 146097
  let day := (sinceMarch.fmod 146097).toNat
  let year := (day - day / 1460 + day / 36524 - day / 146096) / 365
  let ofYear := day - (365 * year + year / 4 - year / 100)
  let month := (5 * ofYear + 2) / 153
  let civil := (era * 400 + year).toNat
  { year := if month < 10 then civil else civil + 1
    month := if month < 10 then month + 3 else month - 9
    day := ofYear - (153 * month + 2) / 5 + 1 }

/-- A moment of a day, with an offset from UTC in minutes if the document gives one. -/
structure DateTime where
  date : Date
  hour : Nat
  minute : Nat
  second : Nat
  microsecond : Nat
  offset : Option Int
  deriving Repr, DecidableEq, Inhabited

/-- The first moment of a day. -/
def Date.midnight (d : Date) : DateTime :=
  ⟨d, 0, 0, 0, 0, none⟩

/-- The moment that is some microseconds after the first of 1970 in UTC. -/
def DateTime.ofMicroseconds (n : Int) : DateTime :=
  let ofDay := (n.fmod 86400000000).toNat
  let seconds := ofDay / 1000000
  { date := .ofDayNumber (n.fdiv 86400000000)
    hour := seconds / 3600
    minute := seconds / 60 % 60
    second := seconds % 60
    microsecond := ofDay % 1000000
    offset := some 0 }

/-- Decimal digits, at least `width` of them. -/
def paddedDigits (width n : Nat) : String :=
  let ds := Nat.repr n
  String.ofList (List.replicate (width - ds.length) '0') ++ ds

/-- `2024-01-02`. -/
def Date.iso (d : Date) : String :=
  paddedDigits 4 d.year ++ "-" ++ paddedDigits 2 d.month ++ "-" ++ paddedDigits 2 d.day

/-- `2024-01-02T03:04:05`, with a fraction unless it is zero, and the offset if there is one. -/
def DateTime.iso (separator : String) (t : DateTime) : String :=
  t.date.iso ++ separator ++ paddedDigits 2 t.hour ++ ":" ++ paddedDigits 2 t.minute ++ ":" ++
    paddedDigits 2 t.second ++
    (if t.microsecond = 0 then "" else "." ++ paddedDigits 6 t.microsecond) ++
    match t.offset with
    | none => ""
    | some m => (if m < 0 then "-" else "+") ++ paddedDigits 2 (m.natAbs / 60) ++ ":" ++
        paddedDigits 2 (m.natAbs % 60)

/-- Year, month and day. -/
def Date.parts (d : Date) : List Nat :=
  [d.year, d.month, d.day]

/-- The parts of a moment; the seconds and their fraction are left out when they are zero. -/
def DateTime.parts (t : DateTime) : List Nat :=
  t.date.parts ++ [t.hour, t.minute] ++
    if t.microsecond ≠ 0 then [t.second, t.microsecond]
    else if t.second ≠ 0 then [t.second]
    else []

/-- How an offset is written after the parts of a moment. -/
def DateTime.offsetText (t : DateTime) : String :=
  match t.offset with
  | none => ""
  | some 0 => ", tzinfo=datetime.timezone.utc"
  | some m =>
    let days := m.fdiv 1440
    ", tzinfo=datetime.timezone(datetime.timedelta(" ++
      (if days = 0 then "" else "days=" ++ Text.ofInt days ++ ", ") ++
      "seconds=" ++ Text.ofInt (60 * m.fmod 1440) ++ "))"

end ModifierLint
