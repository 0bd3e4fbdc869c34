/-
# Octet order and position order

What comes later in a file has the greater position, and no decoding error can turn that around.
This is clear of rows, which count the line feeds before an offset.  Columns count the characters
that the octets of the line before the offset decode to, and an offset may cut a character in two.
But the octets before the lesser of two offsets on one line are a prefix of those before the
greater, and the characters of a prefix grow with the prefix, by one for each octet at most
(`position_mono`).

So if the nodes of a concrete tree start in the order in which they are visited, the diagnostics of
a walk are reported in the order of their positions, and sorting them changes nothing.
-/
import ModifierLint.Proofs.Check.Order
import ModifierLint.Proofs.Java.Positions
import ModifierLint.Proofs.Java.Tokens
import ModifierLint.Proofs.Text.Prefixes

namespace ModifierLint.Java

open Text (lastLine)
open Text.Utf8 (lineFeed decodeLossy)

/-! ## Positions of offsets -/

/-- The point of an offset in a file: its row counts the line feeds before the offset, and its
column the octets behind the last of them. -/
structure PointAt (source : ByteArray) (offset : Nat) (point : Point) : Prop where
  inside : offset ≤ source.size
  row : point.row = ((source.data.toList.take offset).count lineFeed : Nat)
  column : point.column = ((lastLine lineFeed (source.data.toList.take offset)).length : Nat)

/-- The column in characters counts what the octets on the line before the offset decode to. -/
theorem PointAt.charColumn_eq {source : ByteArray} {offset : Nat} {point : Point}
    (here : PointAt source offset point) : charColumn source offset point.column =
      (decodeLossy (lastLine lineFeed (source.data.toList.take offset))).length := by
  obtain ⟨front, line⟩ := Text.lastLine_suffix lineFeed (source.data.toList.take offset)
  have length : (source.data.toList.take offset).length = offset := by
    rw [List.length_take]
    exact Nat.min_eq_left here.inside
  have parts : source.data.toList = front ++ lastLine lineFeed (source.data.toList.take offset) ++
      source.data.toList.drop offset := by
    rw [line, List.take_append_drop]
  have column := charColumn_of_octets parts
  rw [line, length] at column
  rw [here.column, column]

/-- A greater offset has a greater row, or a column that is no less, and that is greater by the
number of octets in between at most. -/
theorem position_mono {source : ByteArray} {a b : Nat} {p q : Point} (before : a ≤ b)
    (first : PointAt source a p) (second : PointAt source b q) :
    p.row < q.row ∨ p.row = q.row ∧
      charColumn source a p.column ≤ charColumn source b q.column ∧
      charColumn source b q.column ≤ charColumn source a p.column + (b - a) := by
  obtain ⟨between, whole⟩ : ∃ between, source.data.toList.take b =
      source.data.toList.take a ++ between := by
    obtain ⟨between, whole⟩ := List.take_prefix_take_left before (l := source.data.toList)
    exact ⟨between, whole.symm⟩
  have length : between.length = b - a := by
    have lengths := congrArg List.length whole
    rw [List.length_append, List.length_take, List.length_take] at lengths
    have inside : b ≤ source.data.toList.length := second.inside
    omega
  rw [first.row, second.row, first.charColumn_eq, second.charColumn_eq, whole, List.count_append]
  by_cases feed : lineFeed ∈ between
  · have more := List.count_pos_iff.2 feed
    exact .inl (by omega)
  · obtain ⟨least, greatest⟩ := Text.Utf8.length_decodeLossy_append
      (lastLine lineFeed (source.data.toList.take a)) between
    rw [List.count_eq_zero_of_not_mem feed, Text.lastLine_append feed, ← length]
    exact .inr ⟨rfl, least, greatest⟩

/-! ## Diagnostics in the order of their nodes -/

/-- The nodes of a tree have true starts, and each starts no earlier than the nodes before it. -/
structure StartsInOrder (source : ByteArray) (root : Cst) : Prop where
  points : ∀ m ∈ root.preorder, ∃ offset : Nat, m.extent.startByte = offset ∧
    PointAt source offset m.extent.startPoint
  order : root.preorder.Pairwise fun m n => m.extent.startByte ≤ n.extent.startByte

/-- A diagnostic at a node comes before those at nodes that start later. -/
theorem diagnostic_le {source : ByteArray} {m n : Cst} {a b : Nat} (c : ImpliedStatic)
    (filePath : String) (first : m.extent.startByte = a) (second : n.extent.startByte = b)
    (point : PointAt source a m.extent.startPoint) (point' : PointAt source b n.extent.startPoint)
    (before : a ≤ b) :
    Diagnostic.le (c.diagnostic filePath (Abstraction.ofCst source m))
      (c.diagnostic filePath (Abstraction.ofCst source n)) = true := by
  refine Diagnostic.le_iff.2 (.inr ⟨rfl, ?_⟩)
  simp only [ImpliedStatic.diagnostic, Abstraction.span_ofCst, Abstraction.spanOf, first, second]
  rcases position_mono before point point' with row | ⟨row, column, -⟩
  · exact .inl (by omega)
  · exact .inr ⟨by omega, by omega⟩

/-- The violations of a tree whose nodes start in order have diagnostics in order. -/
theorem pairwise_diagnostics {source : ByteArray} {root : Cst} (starts : StartsInOrder source root)
    (c : ImpliedStatic) (filePath : String) {ns : List Node}
    (within : ns.Sublist (Abstraction.ofCst source root).preorder) :
    (ns.map (c.diagnostic filePath)).Pairwise fun d e => Diagnostic.le d e = true := by
  have all : ((Abstraction.ofCst source root).preorder.map (c.diagnostic filePath)).Pairwise
      fun d e => Diagnostic.le d e = true := by
    rw [Abstraction.preorder_ofCst, List.pairwise_map, List.pairwise_map]
    refine starts.order.imp_of_mem fun {m n} hm hn before => ?_
    obtain ⟨a, first, point⟩ := starts.points m hm
    obtain ⟨b, second, point'⟩ := starts.points n hn
    rw [first, second] at before
    exact diagnostic_le c filePath first second point point' (Int.ofNat_le.1 before)
  exact all.sublist (within.map _)

/-- **Octet order is kept as position order.**  Of two offsets in a file, whatever its octets are,
the greater has the greater position or the same: a greater row, or a column in characters that is
no less and that differs by the number of octets in between at most.  So if the nodes of a concrete
tree start in pre-order, an empty collector shows the diagnostics of a walk in the order in which
the walk reported them. -/
theorem positions_in_octet_order (source : ByteArray) :
    (∀ (a b : Nat) (p q : Point), a ≤ b → PointAt source a p → PointAt source b q →
      p.row < q.row ∨ p.row = q.row ∧
        charColumn source a p.column ≤ charColumn source b q.column ∧
        charColumn source b q.column ≤ charColumn source a p.column + (b - a)) ∧
    ∀ (c : ImpliedStatic) (w : Walker), Walker.build [c.toCheck] = .ok w →
      ∀ (root : Cst) (filePath : String) (bundle : Bundle), StartsInOrder source root →
        let reported :=
          (w.walk (.ofRoot (Abstraction.convert source root) filePath)).reported.toList
        (Collector.reportAll { bundle } reported).diagnostics = reported := by
  refine ⟨fun a b p q before first second => position_mono before first second, ?_⟩
  intro c w built root filePath bundle starts reported
  have found : reported = (c.rules.violations none (Abstraction.ofCst source root)).map
      (c.diagnostic filePath) := by
    have walked := (ImpliedStatic.walk_eq_violations built
      (.ofRoot (Abstraction.convert source root) filePath)).2
    rw [Abstraction.convert_eq_ofCst] at walked
    exact (congrArg (fun n => (w.walk (.ofRoot n filePath)).reported.toList)
      (Abstraction.convert_eq_ofCst source root)).trans walked
  have all : (Collector.reportAll { bundle } reported).reported.toList = reported :=
    Collector.reported_reportAll _ reported
  rw [Collector.diagnostics, all, found]
  exact List.mergeSort_of_pairwise
    (pairwise_diagnostics starts c filePath (c.rules.violations_sublist none _))

/-- Two octets of a character that lacks its third one, a letter, a line feed and a letter. -/
def tornText : ByteArray := ⟨#[0xE2, 0x82, 0x41, 0x0A, 0x42]⟩

/-- A class around `tornText`, in which an enum starts within the character and another one on the
next line. -/
def tornTree : Cst :=
  .mk "class_declaration" ⟨0, 5, ⟨0, 0⟩, ⟨1, 1⟩⟩ false false
    [.mk "enum_declaration" ⟨1, 3, ⟨0, 1⟩, ⟨0, 3⟩⟩ false false [],
     .mk "enum_declaration" ⟨4, 5, ⟨1, 0⟩, ⟨1, 1⟩⟩ false false []]

theorem startsInOrder_tornTree : StartsInOrder tornText tornTree := by
  refine ⟨fun m hm => ?_, by decide⟩
  rcases List.mem_cons.1 hm with rfl | hm
  · exact ⟨0, rfl, by decide, by decide, by decide⟩
  rcases List.mem_cons.1 hm with rfl | hm
  · exact ⟨1, rfl, by decide, by decide, by decide⟩
  rcases List.mem_singleton.1 hm with rfl
  exact ⟨4, rfl, by decide, by decide, by decide⟩

theorem positions_in_octet_order_of_tornText :
    PointAt tornText 1 ⟨0, 1⟩ ∧ PointAt tornText 3 ⟨0, 3⟩ ∧
      ((0 : Int) < 0 ∨ (0 : Int) = 0 ∧
        charColumn tornText 1 1 ≤ charColumn tornText 3 3 ∧
        charColumn tornText 3 3 ≤ charColumn tornText 1 1 + (3 - 1)) ∧
      StartsInOrder tornText tornTree ∧
      ∃ w, Walker.build [({} : ImpliedStatic).toCheck] = .ok w ∧
        let reported :=
          (w.walk (.ofRoot (Abstraction.convert tornText tornTree) "A.java")).reported.toList
        (Collector.reportAll {} reported).diagnostics = reported := by
  have within : PointAt tornText 1 ⟨0, 1⟩ := ⟨by decide, by decide, by decide⟩
  have behind : PointAt tornText 3 ⟨0, 3⟩ := ⟨by decide, by decide, by decide⟩
  obtain ⟨positions, walks⟩ := positions_in_octet_order tornText
  obtain ⟨w, built⟩ := ImpliedStatic.build_iff.2
    (ImpliedStatic.fits_of_default (c := {}) rfl)
  exact ⟨within, behind, positions 1 3 _ _ (by decide) within behind, startsInOrder_tornTree, w,
    built, walks {} w built tornTree "A.java" {} startsInOrder_tornTree⟩

end ModifierLint.Java
