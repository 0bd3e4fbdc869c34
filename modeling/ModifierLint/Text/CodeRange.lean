/-
# Sets of code points given by ranges

A character class of a standard is a sorted table of inclusive ranges.  `CodeRange.Table.mem` looks
a character up by bisection, so that the long tables of this folder cost a dozen comparisons.
-/

namespace ModifierLint.Text

/-- A character class: inclusive ranges of code points in ascending order. -/
abbrev CodeRanges := Array (Nat × Nat)

namespace CodeRanges

/-- Bisection between the indices `lo` (inclusive) and `hi` (exclusive). -/
def memBetween (table : CodeRanges) (code : Nat) (lo hi : Nat) : Bool :=
  if _h : lo < hi then
    let mid := (lo + hi) / 2
    match table[mid]? with
    | none => false
    | some (first, last) =>
      if code < first then table.memBetween code lo mid
      else if last < code then table.memBetween code (mid + 1) hi
      else true
  else false
termination_by hi - lo
decreasing_by all_goals omega

/-- Whether some range of the table holds the character. -/
def mem (table : CodeRanges) (c : Char) : Bool :=
  table.memBetween c.toNat 0 table.size

end CodeRanges

end ModifierLint.Text
