/-
# The places of nodes, in characters

A grammar counts octets: a point is a row and a number of octets on that row.  The abstract tree
counts characters.  If the offsets of a concrete node lie between characters and its points are true
of the octets before them, the octets that `charColumn` cuts out are exactly those of the characters
between the last line feed and the offset (`charColumn_of_line`), and these decode to what they were
written from.  So every node of the abstract tree has the place that its first and its last
character have in the text, whatever the lengths of the characters before it, and a diagnostic at
the node names that place with both numbers from one.
-/
import Mathlib.Data.List.Forall2
import ModifierLint.Proofs.Java.Conversion
import ModifierLint.Proofs.Text.Lines
import ModifierLint.Check.Basic

namespace ModifierLint.Java

open Text (lastLine)
open Text.Utf8 (encode lineFeed)

/-! ## Places in a text -/

/-- The offset lies between characters, and these are the ones before it. -/
structure CharBoundary (content : String) (offset : Int) (before : List Char) : Prop where
  front : before <+: content.toList
  octets : offset = (encode before).length

/-- The row counts the line feeds among the octets before the offset, and the column the octets
behind the last of them. -/
structure TruePoint (content : String) (offset : Int) (point : Point) : Prop where
  row : point.row = (content.toUTF8.data.toList.take offset.toNat).count lineFeed
  column : point.column =
    (lastLine lineFeed (content.toUTF8.data.toList.take offset.toNat)).length

/-- Both ends of a node lie between characters and have true points. -/
structure TrueExtent (content : String) (extent : Extent) : Prop where
  start : ∃ before, CharBoundary content extent.startByte before
  stop : ∃ before, CharBoundary content extent.endByte before
  startPoint : TruePoint content extent.startByte extent.startPoint
  endPoint : TruePoint content extent.endByte extent.endPoint

/-- The line that comes after some characters, from one. -/
def lineAfter (before : List Char) : Int :=
  1 + (before.count '\n' : Nat)

/-- The number of characters since the last line feed. -/
def columnAfter (before : List Char) : Int :=
  ((lastLine '\n' before).length : Nat)

/-- The span between the characters before the start and those before the end. -/
def spanBetween (first last : List Char) : Span where
  startLine := lineAfter first
  startColumn := columnAfter first
  endLine := lineAfter last
  endColumn := columnAfter last

/-! ## Cutting out the line -/

theorem toList_octets (source : ByteArray) (start stop : Nat) :
    (octets source start stop).data.toList =
      (source.data.toList.drop start).take (stop - start) := by
  have place (n : Nat) : placeOf source n = n := by
    rw [placeOf, if_neg (by omega), Int.toNat_natCast]
  rw [octets, place, place, ByteArray.data_extract, Array.toList_extract,
    List.extract_eq_take_drop]

/-- The column of an offset is the number of characters of the octets on its line before it. -/
theorem charColumn_of_octets {source : ByteArray} {front line back : List UInt8}
    (parts : source.data.toList = front ++ line ++ back) :
    charColumn source ((front ++ line).length : Nat) (line.length : Nat) =
      (Text.Utf8.decodeLossy line).length := by
  have start : (((front ++ line).length : Nat) : Int) - (line.length : Nat) = front.length := by
    rw [List.length_append]
    omega
  have length : (front ++ line).length - front.length = line.length := by
    rw [List.length_append]
    omega
  rw [charColumn, start, Text.Utf8.characterCount_eq, toList_octets, length, parts,
    List.append_assoc, List.drop_left, List.take_left]

/-- The octets of a line, cut out by offset and column, decode to its characters. -/
theorem charColumn_of_line {content : String} {front line after : List Char}
    (parts : content.toList = front ++ line ++ after) :
    charColumn content.toUTF8 (encode (front ++ line)).length (encode line).length =
      line.length := by
  have octets : content.toUTF8.data.toList = encode front ++ encode line ++ encode after := by
    rw [Text.Utf8.toUTF8_toList, parts, Text.Utf8.encode_append, Text.Utf8.encode_append]
  rw [Text.Utf8.encode_append, charColumn_of_octets octets, Text.Utf8.decodeLossy_encode]

namespace CharBoundary

variable {content : String} {offset : Int} {before : List Char}

/-- The octets before the offset are those of the characters before it. -/
theorem take_octets (h : CharBoundary content offset before) :
    content.toUTF8.data.toList.take offset.toNat = encode before := by
  obtain ⟨after, parts⟩ := h.front
  rw [h.octets, Int.toNat_natCast, Text.Utf8.toUTF8_toList, ← parts, Text.Utf8.encode_append,
    List.take_left]

/-- A point is true if it counts the line feeds before it and the octets of the characters behind
the last of them. -/
theorem truePoint (h : CharBoundary content offset before) {point : Point}
    (row : point.row = (before.count '\n' : Nat))
    (column : point.column = ((encode (lastLine '\n' before)).length : Nat)) :
    TruePoint content offset point := by
  refine ⟨?_, ?_⟩
  · rw [h.take_octets, Text.Utf8.count_encode, row]
  · rw [h.take_octets, Text.Utf8.lastLine_encode, column]

theorem row_eq (h : CharBoundary content offset before) {point : Point}
    (points : TruePoint content offset point) : point.row + 1 = lineAfter before := by
  rw [points.row, h.take_octets, Text.Utf8.count_encode, lineAfter, Int.add_comm]

theorem column_eq (h : CharBoundary content offset before) {point : Point}
    (points : TruePoint content offset point) :
    charColumn content.toUTF8 offset point.column = columnAfter before := by
  obtain ⟨after, parts⟩ := h.front
  obtain ⟨front, line⟩ := Text.lastLine_suffix '\n' before
  have apart : content.toList = front ++ lastLine '\n' before ++ after := by rw [line, parts]
  have cut := charColumn_of_line apart
  rw [line] at cut
  rw [points.column, h.take_octets, Text.Utf8.lastLine_encode, h.octets, cut, columnAfter]

end CharBoundary

/-- The span of a node with true points. -/
theorem spanOf_eq {content : String} {extent : Extent} {first last : List Char}
    (start : CharBoundary content extent.startByte first)
    (stop : CharBoundary content extent.endByte last) (given : TrueExtent content extent) :
    Abstraction.spanOf content.toUTF8 extent = spanBetween first last := by
  rw [Abstraction.spanOf, spanBetween, start.row_eq given.startPoint,
    start.column_eq given.startPoint, stop.row_eq given.endPoint, stop.column_eq given.endPoint]

/-! ## Nodes and diagnostics -/

/-- The node stands for the concrete node.  It starts after the characters `first` and ends after
the characters `last`, and every diagnostic at it is located at its start, with the column from one. -/
structure Placed (content : String) (m : Cst) (first last : List Char) (node : Node) : Prop where
  start : CharBoundary content m.extent.startByte first
  stop : CharBoundary content m.extent.endByte last
  kind : node.kind = m.kind
  span : node.span = spanBetween first last
  line : ∀ (c : Check) (t : SourceTree) (key : String) (args : List String),
    (c.diagnose t ⟨node, key, args⟩).line = lineAfter first
  column : ∀ (c : Check) (t : SourceTree) (key : String) (args : List String),
    (c.diagnose t ⟨node, key, args⟩).column = 1 + columnAfter first

/-- The node that a concrete node with true points becomes. -/
theorem placed_ofCst {content : String} {m : Cst} (given : TrueExtent content m.extent) :
    ∃ first last, Placed content m first last (Abstraction.ofCst content.toUTF8 m) := by
  obtain ⟨first, start⟩ := given.start
  obtain ⟨last, stop⟩ := given.stop
  have span : (Abstraction.ofCst content.toUTF8 m).span = spanBetween first last := by
    rw [Abstraction.span_ofCst, spanOf_eq start stop given]
  refine ⟨first, last, start, stop, Abstraction.kind_ofCst _ m, span, ?_, ?_⟩
  · intro c t key args
    show (Abstraction.ofCst content.toUTF8 m).span.startLine = lineAfter first
    rw [span, spanBetween]
  · intro c t key args
    show (Abstraction.ofCst content.toUTF8 m).span.startColumn + 1 = 1 + columnAfter first
    rw [span, spanBetween, Int.add_comm]

/-- A text whose concrete tree has no error and true points between characters is parsed, and the
nodes of the abstract tree are, one for one, those of the concrete tree with the places that their
first and last characters have in the text. -/
theorem parseSource_places (grammar : Grammar) (filePath content : String) (root : Cst)
    (given : grammar content = some root) (clean : root.hasError = false)
    (points : ∀ m ∈ root.preorder, TrueExtent content m.extent) :
    ∃ ast, parseSource grammar filePath content = .ok ast ∧
      List.Forall₂ (fun m node => ∃ first last, Placed content m first last node)
        root.preorder ast.preorder := by
  refine ⟨Abstraction.ofCst content.toUTF8 root, ?_, ?_⟩
  · rw [parseSource, given]
    simp only [clean, Bool.false_eq_true, if_false, Abstraction.convert_eq_ofCst]
  · rw [Abstraction.preorder_ofCst, List.forall₂_map_right_iff, List.forall₂_same]
    intro m hm
    exact placed_ofCst (points m hm)

/-- Characters of one to four octets on two lines. -/
def wideText : String := "ä\nö€𝄞 x"

/-- The last letter of `wideText`. -/
def wideLetter : Cst :=
  .mk "identifier" ⟨13, 14, ⟨1, 10⟩, ⟨1, 11⟩⟩ false false []

/-- The tree of `wideText`. -/
def wideRoot : Cst :=
  .mk "program" ⟨0, 14, ⟨0, 0⟩, ⟨1, 11⟩⟩ false false [wideLetter]

theorem trueExtent_of_wideRoot : ∀ m ∈ wideRoot.preorder, TrueExtent wideText m.extent := by
  have start : CharBoundary wideText 0 [] := ⟨by decide, by decide⟩
  have letter : CharBoundary wideText 13 "ä\nö€𝄞 ".toList := ⟨by decide, by decide⟩
  have stop : CharBoundary wideText 14 wideText.toList := ⟨by decide, by decide⟩
  have startPoint : TruePoint wideText 0 ⟨0, 0⟩ := start.truePoint (by decide) (by decide)
  have letterPoint : TruePoint wideText 13 ⟨1, 10⟩ := letter.truePoint (by decide) (by decide)
  have stopPoint : TruePoint wideText 14 ⟨1, 11⟩ := stop.truePoint (by decide) (by decide)
  intro m hm
  rcases List.mem_cons.1 hm with rfl | hm
  · exact ⟨⟨_, start⟩, ⟨_, stop⟩, startPoint, stopPoint⟩
  rcases List.mem_singleton.1 hm with rfl
  exact ⟨⟨_, letter⟩, ⟨_, stop⟩, letterPoint, stopPoint⟩

theorem parseSource_places_of_wideText :
    wideRoot.hasError = false ∧ (∀ m ∈ wideRoot.preorder, TrueExtent wideText m.extent) ∧
      ∃ ast, parseSource (fun _ => some wideRoot) "Wide.java" wideText = .ok ast ∧
        List.Forall₂ (fun m node => ∃ first last, Placed wideText m first last node)
          wideRoot.preorder ast.preorder :=
  ⟨rfl, trueExtent_of_wideRoot,
    parseSource_places (fun _ => some wideRoot) "Wide.java" wideText wideRoot rfl rfl
      trueExtent_of_wideRoot⟩

end ModifierLint.Java
