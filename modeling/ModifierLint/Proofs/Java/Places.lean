/-
# Places that can be written

Numbers with too many digits cannot be written, and the line and the column of a diagnostic are
numbers of any size.  But grammars count in 32 bits, which is far below what can be written.  The
column in characters is no greater than the one in octets, because no octet is more than one
character (`charColumn_le`).  So the violations in a tree that a grammar has made have places that
can be written (`ImpliedStatic.isWritable_diagnostic`).
-/
import Mathlib.Algebra.Ring.Int.Defs
import Mathlib.Algebra.Ring.Nat
import ModifierLint.Check.Collector
import ModifierLint.Proofs.Java.Conversion
import ModifierLint.Proofs.Java.Positions
import ModifierLint.Proofs.Java.Violations
import ModifierLint.Proofs.Text.Digits
import ModifierLint.Proofs.Text.Prefixes

namespace ModifierLint.Java

/-- The start of a node is counted in 32 bits, and there are no more octets in front of it on its
row than in the file. -/
structure Extent.IsCounted (e : Extent) : Prop where
  row : 0 ≤ e.startPoint.row ∧ e.startPoint.row < 2 ^ 32
  column : 0 ≤ e.startPoint.column ∧ e.startPoint.column < 2 ^ 32
  within : e.startPoint.column ≤ e.startByte

/-- The starts of all nodes of its trees are counted in 32 bits. -/
def Grammar.Counts (g : Grammar) : Prop :=
  ∀ text root, g text = some root → ∀ m ∈ root.preorder, m.extent.IsCounted

theorem length_decodeLossy_le (octets : List UInt8) :
    (Text.Utf8.decodeLossy octets).length ≤ octets.length := by
  have most := (Text.Utf8.length_decodeLossy_append [] octets).2
  have none : Text.Utf8.decodeLossy [] = [] := by simp [Text.Utf8.decodeLossy, Text.Utf8.decodeFrom]
  rwa [List.nil_append, none, List.length_nil, Nat.zero_add] at most

/-- The octets of a row are as many characters at most. -/
theorem charColumn_le {source : ByteArray} {offset column : Int} (positive : 0 ≤ column)
    (within : column ≤ offset) : (charColumn source offset column : Int) ≤ column := by
  obtain ⟨n, rfl⟩ := Int.eq_ofNat_of_zero_le positive
  obtain ⟨m, rfl⟩ := Int.eq_ofNat_of_zero_le (Int.le_trans positive within)
  have start : (m : Int) - n = ((m - n : Nat) : Int) := by omega
  have few := length_decodeLossy_le ((source.data.toList.drop (m - n)).take (m - (m - n)))
  rw [charColumn, Text.Utf8.characterCount_eq, start, toList_octets]
  rw [List.length_take] at few
  omega

/-- The place of a node that a grammar has counted can be written. -/
theorem ImpliedStatic.isWritable_diagnostic (c : ImpliedStatic) (filePath : String)
    (source : ByteArray) {m : Cst} (counted : m.extent.IsCounted) :
    (c.diagnostic filePath (Abstraction.ofCst source m)).isWritable = true := by
  have most : 2 ^ 32 < 10 ^ Text.mostDigits := by decide +kernel
  have narrow : (charColumn source m.extent.startByte m.extent.startPoint.column : Int) ≤ _ :=
    charColumn_le counted.column.1 counted.within
  obtain ⟨⟨top, low⟩, ⟨left, right⟩, -⟩ := counted
  rw [Diagnostic.isWritable, Bool.and_eq_true, Text.isWritable_iff, Text.isWritable_iff]
  simp only [diagnostic, Abstraction.span_ofCst, Abstraction.spanOf]
  generalize 10 ^ Text.mostDigits = bound at most
  generalize charColumn source m.extent.startByte m.extent.startPoint.column = column at narrow
  omega

end ModifierLint.Java
