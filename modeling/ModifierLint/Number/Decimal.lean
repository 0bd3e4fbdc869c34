/-
# Reading doubles

`Number.ofDecimal` is the double nearest to a decimal number.  `Number.read?` reads one in text:
blanks around it, a sign, digits with a point and an exponent, or a word for infinity or for no
number.
-/
import ModifierLint.Text.Decimal

namespace ModifierLint.Number

/-- The double nearest to `mantissa * 10 ^ exponent`. -/
def ofDecimal (mantissa : Nat) (exponent : Int) : Float :=
  let digits : Int := (Nat.toDigits 10 mantissa).length
  if mantissa = 0 || exponent + digits < -330 then 0.0
  else if exponent + digits > 320 then 1.0 / 0.0
  else if exponent < 0 then Float.ofScientific mantissa true exponent.natAbs
  else Float.ofScientific mantissa false exponent.natAbs

/-- The number that decimal digits write. -/
def ofDigits (ds : List Char) : Nat :=
  ds.foldl (fun n d => n * 10 + (Text.digitValue? d).getD 0) 0

/-- Whether the character is a decimal digit of some script. -/
def isDigit (c : Char) : Bool :=
  (Text.digitValue? c).isSome

/-- The exponent behind a number, zero if none is written. -/
def exponent? : List Char → Option Int
  | [] => some 0
  | e :: rest =>
    if e = 'e' || e = 'E' then
      let (negative, ds) := match rest with
        | '-' :: ds => (true, ds)
        | '+' :: ds => (false, ds)
        | ds => (false, ds)
      if ds.isEmpty || !ds.all isDigit then none
      else
        let n : Int := ofDigits ds
        some (if negative then -n else n)
    else none

/-- A number without a sign. -/
def unsigned? (s : List Char) : Option Float :=
  let word := String.ofList (s.map Char.toLower)
  if word = "inf" || word = "infinity" then some (1.0 / 0.0)
  else if word = "nan" then some (0.0 / 0.0)
  else
    let whole := s.takeWhile isDigit
    let rest := s.dropWhile isDigit
    let (fraction, rest) := match rest with
      | '.' :: rest => (rest.takeWhile isDigit, rest.dropWhile isDigit)
      | rest => ([], rest)
    if whole.isEmpty && fraction.isEmpty then none
    else (exponent? rest).map fun e =>
      ofDecimal (ofDigits (whole ++ fraction)) (e - fraction.length)

/-- A number in text. -/
def read? (s : List Char) : Option Float :=
  match Text.stripWhere Text.isBlank s with
  | '-' :: rest => (unsigned? rest).map fun x => -x
  | '+' :: rest => unsigned? rest
  | s => unsigned? s

end ModifierLint.Number
