/-
# Double precision numbers as exact fractions

`Binary64.ofFloat` takes a finite number apart into sign, significand and power of two, so that
rendering and rounding work on natural numbers only.  `roundHalfEven` is the one rounding rule of
the project.
-/

namespace ModifierLint.Number

/-- A finite double: `significand * 2 ^ exponent`, negated if `negative`.  `narrowBelow` says that
the gap to the next number below is half the gap above. -/
structure Binary64 where
  negative : Bool
  significand : Nat
  exponent : Int
  narrowBelow : Bool
  deriving Repr, DecidableEq

namespace Binary64

/-- The parts of a finite double; `none` for NaN and the infinities. -/
def ofFloat (x : Float) : Option Binary64 :=
  let bits : Nat := x.toBits.toNat
  let negative := bits / Nat.pow 2 63 % 2 == 1
  let biased : Nat := bits / Nat.pow 2 52 % Nat.pow 2 11
  let fraction : Nat := bits % Nat.pow 2 52
  if biased = 2047 then none
  else if biased = 0 then some ⟨negative, fraction, -1074, false⟩
  else some ⟨negative, Nat.pow 2 52 + fraction, (biased : Int) - 1075, fraction == 0 && biased > 1⟩

/-- The numerator of the absolute value over `denominator`. -/
def numerator (b : Binary64) : Nat :=
  b.significand * Nat.pow 2 b.exponent.toNat

/-- A power of two. -/
def denominator (b : Binary64) : Nat :=
  Nat.pow 2 (-b.exponent).toNat

/-- Whether the number is an integer. -/
def isIntegral (b : Binary64) : Bool :=
  b.numerator % b.denominator == 0

/-- The integer that the number is cut off to. -/
def truncate (b : Binary64) : Int :=
  let n : Int := (b.numerator / b.denominator : Nat)
  if b.negative then -n else n

end Binary64

/-- The integer nearest to `num / den`; a half goes to the even neighbour. -/
def roundHalfEven (num den : Nat) : Nat :=
  let quotient := num / den
  let rest := 2 * (num % den)
  if rest < den then quotient
  else if den < rest then quotient + 1
  else quotient + quotient % 2

/-- The number of decimal digits before the point of `num / den`; zero or negative when leading
zeros follow the point.  The value lies in `[10 ^ (k - 1), 10 ^ k)` for the result `k`. -/
def decimalPoint (num den : Nat) : Int :=
  if den ≤ num then (Nat.toDigits 10 (num / den)).length
  else 1 - shift 400 1
where
  /-- The least power of ten that lifts the fraction to one. -/
  shift : Nat → Nat → Nat
  | 0, k => k
  | fuel + 1, k => if den ≤ num * Nat.pow 10 k then k else shift fuel (k + 1)

end ModifierLint.Number
