/-
# Decimal digits and integers in text

`digitValue?` knows the decimal digits of every script of Unicode 14.  `integer?` reads an integer
as arguments write it: blanks around it, a sign, and single underscores between digits.

Reading and writing a number takes time that grows with the square of its length, so integers with
more than `mostDigits` digits are neither read nor written.  `ofInt` are the digits of any integer;
whoever writes them asks `isWritable` first.
-/
import ModifierLint.Text.Blank

namespace ModifierLint.Text

/-- The zeros of the scripts with decimal digits; nine more digits follow each. -/
def decimalZeros : List Nat := [
    0x30, 0x660, 0x6F0, 0x7C0, 0x966, 0x9E6, 0xA66, 0xAE6, 0xB66, 0xBE6, 0xC66, 0xCE6, 0xD66,
    0xDE6, 0xE50, 0xED0, 0xF20, 0x1040, 0x1090, 0x17E0, 0x1810, 0x1946, 0x19D0, 0x1A80, 0x1A90,
    0x1B50, 0x1BB0, 0x1C40, 0x1C50, 0xA620, 0xA8D0, 0xA900, 0xA9D0, 0xA9F0, 0xAA50, 0xABF0,
    0xFF10, 0x104A0, 0x10D30, 0x11066, 0x110F0, 0x11136, 0x111D0, 0x112F0, 0x11450, 0x114D0,
    0x11650, 0x116C0, 0x11730, 0x118E0, 0x11950, 0x11C50, 0x11D50, 0x11DA0, 0x16A60, 0x16AC0,
    0x16B50, 0x1D7CE, 0x1D7D8, 0x1D7E2, 0x1D7EC, 0x1D7F6, 0x1E140, 0x1E2F0, 0x1E950, 0x1FBF0]

/-- The value of a decimal digit of any script. -/
def digitValue? (c : Char) : Option Nat :=
  if c.toNat < 0x80 then
    if c.isDigit then some (c.toNat - 48) else none
  else
    (decimalZeros.find? fun first => first ≤ c.toNat && c.toNat ≤ first + 9).map (c.toNat - ·)

/-- The value of a digit in a base of up to 36. -/
def baseDigit? (base : Nat) (c : Char) : Option Nat :=
  let value? :=
    if c.isLower then some (c.toNat - 87)
    else if c.isUpper then some (c.toNat - 55)
    else digitValue? c
  value?.bind fun v => if v < base then some v else none

/-- The number that the digits write; a single underscore may stand between two digits. -/
def naturalFrom (base acc : Nat) : List Char → Option Nat
  | [] => some acc
  | '_' :: c :: rest => (baseDigit? base c).bind fun v => naturalFrom base (acc * base + v) rest
  | c :: rest => (baseDigit? base c).bind fun v => naturalFrom base (acc * base + v) rest

/-- At least one digit, underscores only between digits. -/
def natural? (base : Nat) : List Char → Option Nat
  | [] => none
  | c :: rest => (baseDigit? base c).bind fun v => naturalFrom base v rest

/-- A sign is optional. -/
def signed? (base : Nat) : List Char → Option Int
  | '-' :: rest => (natural? base rest).map fun n => -(n : Int)
  | '+' :: rest => (natural? base rest).map fun n => (n : Int)
  | cs => (natural? base cs).map fun n => (n : Int)

/-- The greatest number of digits of an integer in text.  It is irreducible, so that powers with this
exponent are not computed where they are only compared. -/
@[irreducible]
def mostDigits : Nat := 4300

/-- An integer in decimal digits with blanks around it. -/
def integer? (s : String) : Option Int :=
  if s.toList.countP (digitValue? · |>.isSome) > mostDigits then none
  else signed? 10 (stripWhere isBlank s.toList)

/-- Whether the integer has no more digits than texts may have of it. -/
def isWritable (n : Int) : Bool :=
  n.natAbs < Nat.pow 10 mostDigits

/-- The complaint about an integer with more digits. -/
def tooManyDigits : String :=
  "Exceeds the limit (" ++ Nat.repr mostDigits ++ ") for integer string conversion; " ++
    "use sys.set_int_max_str_digits() to increase the limit"

/-- The decimal digits of an integer. -/
def ofInt (n : Int) : String :=
  if n < 0 then "-" ++ Nat.repr n.natAbs else Nat.repr n.natAbs

end ModifierLint.Text
