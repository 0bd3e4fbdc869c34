/-
# The shortest decimal text of a double

Of all decimals that read back as the given number, those with the fewest digits are taken, and of
those the nearest.  `digits?` finds them on the decimal grids of one, two, … seventeen digits by
testing the two neighbours of the exact value on each grid.  `render` lays them out: positional
from `0.0001` up to sixteen digits before the point, with an exponent of at least two digits
outside that range, and always with a mark that the number is not an integer.
-/
import ModifierLint.Number.Binary64

namespace ModifierLint.Number

/-- The digits of a positive number as a natural number, and the place of the decimal point. -/
structure Digits where
  value : Nat
  point : Int
  deriving Repr, DecidableEq

namespace Shortest

/-- Whether `candidate * 10 ^ scale` reads back as `b`. -/
def readsBack (b : Binary64) (candidate : Nat) (scale : Int) : Bool :=
  -- All three are compared as multiples of a quarter of the last binary place.
  let exponent := b.exponent - 2
  let left := candidate * Nat.pow 10 scale.toNat * Nat.pow 2 (-exponent).toNat
  let unit := Nat.pow 10 (-scale).toNat * Nat.pow 2 exponent.toNat
  let low := (4 * b.significand - (if b.narrowBelow then 1 else 2)) * unit
  let high := (4 * b.significand + 2) * unit
  if b.significand % 2 = 0 then low ≤ left && left ≤ high else low < left && left < high

/-- The better neighbour of the value on the grid with `count` digits, if one reads back. -/
def onGrid (b : Binary64) (point : Int) (count : Nat) : Option Nat :=
  let scale := point - count
  let num := b.numerator * Nat.pow 10 (-scale).toNat
  let den := b.denominator * Nat.pow 10 scale.toNat
  let below := num / den
  let near := roundHalfEven num den
  let far := if near = below then below + 1 else below
  if readsBack b near scale then some near
  else if readsBack b far scale then some far
  else none

/-- The first grid, from `count` digits on, with a neighbour that reads back. -/
def search (b : Binary64) (point : Int) : Nat → Nat → Nat × Nat
  | 0, count => (b.numerator * Nat.pow 10 (count - point).toNat / b.denominator, count)
  | fuel + 1, count =>
    match onGrid b point count with
    | some candidate => (candidate, count)
    | none => search b point fuel (count + 1)

/-- Trailing zeros carry nothing. -/
def dropZeros : Nat → Nat → Nat
  | 0, n => n
  | fuel + 1, n => if n ≠ 0 && n % 10 = 0 then dropZeros fuel (n / 10) else n

/-- The shortest digits of a number other than zero. -/
def digits (b : Binary64) : Digits :=
  let point := decimalPoint b.numerator b.denominator
  let (value, count) := search b point 17 1
  -- A neighbour above may have one digit more.
  let point := point + ((Nat.toDigits 10 value).length - count : Int)
  ⟨dropZeros 20 value, point⟩

end Shortest

/-- The mark, sign and at least two digits of a decimal exponent. -/
def exponentText (mark : Char) (e : Int) : String :=
  let digits := Nat.repr e.natAbs
  mark.toString ++ (if e < 0 then "-" else "+") ++ (if digits.length < 2 then "0" else "") ++ digits

/-- Lays out digits with the decimal point after `point` of them. -/
def Digits.layout (d : Digits) : String :=
  let ds := Nat.repr d.value
  let count : Int := ds.length
  if d.point > 16 || d.point < -3 then
    let rest := ds.toList.drop 1
    let mantissa := String.ofList (ds.toList.take 1)
    mantissa ++ (if rest.isEmpty then "" else "." ++ String.ofList rest) ++
      exponentText 'e' (d.point - 1)
  else if d.point ≤ 0 then "0." ++ String.ofList (List.replicate (-d.point).toNat '0') ++ ds
  else if count ≤ d.point then
    ds ++ String.ofList (List.replicate (d.point - count).toNat '0') ++ ".0"
  else
    String.ofList (ds.toList.take d.point.toNat) ++ "." ++
      String.ofList (ds.toList.drop d.point.toNat)

/-- The shortest text of a double; `nan`, `inf` and `-inf` for those that are not finite. -/
def render (x : Float) : String :=
  match Binary64.ofFloat x with
  | none => if x.isNaN then "nan" else if x < 0 then "-inf" else "inf"
  | some b =>
    let sign := if b.negative then "-" else ""
    if b.significand = 0 then sign ++ "0.0" else sign ++ (Shortest.digits b).layout

/-- The double nearest to the value rounded to `places` decimals. -/
def roundTo (places : Nat) (x : Float) : Float :=
  match Binary64.ofFloat x with
  | none => x
  | some b =>
    let n := roundHalfEven (b.numerator * Nat.pow 10 places) b.denominator
    let y := Float.ofScientific n true places
    if b.negative then -y else y

/-- A finite number with exactly `places` decimals. -/
def fixed (places : Nat) (b : Binary64) : String :=
  let n := roundHalfEven (b.numerator * Nat.pow 10 places) b.denominator
  let ds := Nat.repr n
  let padded := String.ofList (List.replicate (places + 1 - ds.length) '0') ++ ds
  let whole := padded.length - places
  (if b.negative then "-" else "") ++ String.ofList (padded.toList.take whole) ++
    (if places = 0 then "" else "." ++ String.ofList (padded.toList.drop whole))

/-- The significant digits of a finite number rounded to `count` of them, and its exponent. -/
def significant (count : Nat) (b : Binary64) : Nat × Int :=
  if b.significand = 0 then (0, 0)
  else
    let point := decimalPoint b.numerator b.denominator
    let scale := point - count
    let n := roundHalfEven (b.numerator * Nat.pow 10 (-scale).toNat)
      (b.denominator * Nat.pow 10 scale.toNat)
    if n = Nat.pow 10 count then (Nat.pow 10 (count - 1), point) else (n, point - 1)

/-- A finite number in scientific notation with `places` decimals. -/
def scientific (places : Nat) (b : Binary64) : String :=
  let (n, e) := significant (places + 1) b
  let ds := Nat.repr n
  let padded := ds ++ String.ofList (List.replicate (places + 1 - ds.length) '0')
  (if b.negative then "-" else "") ++ String.ofList (padded.toList.take 1) ++
    (if places = 0 then "" else "." ++ String.ofList (padded.toList.drop 1)) ++ exponentText 'e' e

/-- A finite number with `count` significant digits and no trailing zeros: positional unless the
exponent is below `-4` or at least `count`. -/
def general (count : Nat) (b : Binary64) : String :=
  let count := max count 1
  let (n, e) := significant count b
  let sign := if b.negative then "-" else ""
  if n = 0 then sign ++ "0"
  else
    let d : Digits := ⟨Shortest.dropZeros count n, e + 1⟩
    let ds := Nat.repr d.value
    if e < -4 || e ≥ count then
      sign ++ String.ofList (ds.toList.take 1) ++
        (if ds.length = 1 then "" else "." ++ String.ofList (ds.toList.drop 1)) ++
        exponentText 'e' e
    else if e < 0 then
      sign ++ "0." ++ String.ofList (List.replicate (-e - 1).toNat '0') ++ ds
    else if ds.length ≤ e.toNat + 1 then
      sign ++ ds ++ String.ofList (List.replicate (e.toNat + 1 - ds.length) '0')
    else
      sign ++ String.ofList (ds.toList.take (e.toNat + 1)) ++ "." ++
        String.ofList (ds.toList.drop (e.toNat + 1))

end ModifierLint.Number
