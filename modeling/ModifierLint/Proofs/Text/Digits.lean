/-
# Digits

Natural numbers are written in ASCII digits.  A digit is none of the characters that have a meaning
beside numbers, so a number ends where a reader of digits stops.  Numbers with too many digits are
not written.
-/
import Mathlib.Algebra.Ring.Nat
import ModifierLint.Text.Decimal

namespace ModifierLint.Text

theorem isDigit_toDigits (n : Nat) : ∀ c ∈ Nat.toDigits 10 n, c.isDigit = true :=
  fun _ => Nat.isDigit_of_mem_toDigits (by decide) (by decide)

theorem ne_of_isDigit {c x : Char} (digit : c.isDigit = true) (other : x.isDigit = false) :
    c ≠ x := by
  rintro rfl
  rw [digit] at other
  cases other

theorem toNat_lt_of_isDigit {c : Char} (digit : c.isDigit = true) : c.toNat < 128 := by
  rw [Char.isDigit, Bool.and_eq_true, decide_eq_true_eq, decide_eq_true_eq] at digit
  exact Nat.lt_of_le_of_lt digit.2 (by decide)

theorem digitValue?_of_isDigit {c : Char} (digit : c.isDigit = true) :
    digitValue? c = some (c.toNat - 48) := by
  rw [digitValue?, if_pos (toNat_lt_of_isDigit digit), if_pos digit]

theorem isWritable_iff (n : Int) : isWritable n = true ↔ n.natAbs < 10 ^ mostDigits := by
  unfold isWritable
  exact decide_eq_true_iff

end ModifierLint.Text
