/-
# The texts of nodes, in characters

Offsets count octets, but the limit on the text of a node counts characters.  If the offsets of a
concrete node lie between characters, the octets between them are those of the characters between
them (`Covers.octets_eq`), so a text that is cut is cut between two characters, whatever their
lengths.

A node keeps a text that is shorter than the limit.  From the limit on the text is cut and marked.
That includes a text as long as the limit, which keeps all of its characters and is marked as if
some were missing (`full_marked`).
-/
import ModifierLint.Proofs.Java.Positions

namespace ModifierLint.Java

open Abstraction (textLimit cutMark textOf)
open Text.Utf8 (encode)

/-! ## The characters of a node -/

/-- Both ends of a node lie between characters, the start not behind the end. -/
structure BetweenCharacters (content : String) (extent : Extent) : Prop where
  start : ∃ before, CharBoundary content extent.startByte before
  stop : ∃ before, CharBoundary content extent.endByte before
  order : extent.startByte ≤ extent.endByte

/-- The node covers the characters `text`, which come after the characters `front`. -/
structure Covers (content : String) (extent : Extent) (front text : List Char) : Prop where
  start : CharBoundary content extent.startByte front
  stop : CharBoundary content extent.endByte (front ++ text)

theorem length_encode_append (front text : List Char) :
    (encode (front ++ text)).length = (encode front).length + (encode text).length := by
  rw [Text.Utf8.encode_append, List.length_append]

/-- Every character takes up an octet. -/
theorem eq_nil_of_length_encode {text : List Char} (empty : (encode text).length = 0) :
    text = [] := by
  have decoded := Text.Utf8.decodeLossy_encode text
  rw [List.length_eq_zero_iff.1 empty] at decoded
  exact decoded.symm

/-- A node whose ends lie between characters covers the characters between them. -/
theorem BetweenCharacters.exists_covers {content : String} {extent : Extent}
    (between : BetweenCharacters content extent) :
    ∃ front text, Covers content extent front text := by
  obtain ⟨⟨front, start⟩, ⟨last, stop⟩, order⟩ := between
  have ordered : (encode front).length ≤ (encode last).length := by
    have same := order
    rw [start.octets, stop.octets] at same
    exact Int.ofNat_le.1 same
  rcases List.prefix_or_prefix_of_prefix start.front stop.front with ⟨text, rfl⟩ | ⟨back, rfl⟩
  · exact ⟨front, text, start, stop⟩
  · -- the end is no less than the start, so no character stands between them
    have none_between : back = [] := by
      rw [length_encode_append] at ordered
      exact eq_nil_of_length_encode (by omega)
    subst none_between
    rw [List.append_nil] at start
    exact ⟨last, [], start, by rwa [List.append_nil]⟩

namespace Covers

variable {content : String} {extent : Extent} {front text : List Char}

/-- The octets between the ends of a node are those of the characters that it covers. -/
theorem octets_eq (covers : Covers content extent front text) :
    (octets content.toUTF8 extent.startByte extent.endByte).data.toList = encode text := by
  obtain ⟨back, parts⟩ := covers.stop.front
  rw [covers.start.octets, covers.stop.octets, toList_octets, length_encode_append,
    Nat.add_sub_cancel_left, Text.Utf8.toUTF8_toList, ← parts, List.append_assoc,
    Text.Utf8.encode_append, List.drop_left, Text.Utf8.encode_append, List.take_left]

/-- The text that is kept of the characters that a node covers. -/
theorem textOf_eq (covers : Covers content extent front text) :
    textOf content.toUTF8 extent =
      if text.length < textLimit then String.ofList text
      else String.ofList (text.take textLimit) ++ cutMark := by
  have first : Text.Utf8.firstCharacters textLimit
      (octets content.toUTF8 extent.startByte extent.endByte) = text.take textLimit := by
    rw [Text.Utf8.firstCharacters_eq, covers.octets_eq, Text.Utf8.decodeLossy_encode]
  have length : (text.take textLimit).length < textLimit ↔ text.length < textLimit := by
    rw [List.length_take]
    omega
  simp only [textOf, first, length]
  split
  · next short => rw [List.take_of_length_le (Nat.le_of_lt short)]
  · rfl

end Covers

/-! ## The texts of the abstract tree -/

/-- The node has what is kept of the characters `text`: all of them if they are fewer than the
limit, and else the first of them with a mark behind. -/
structure Keeps (text : List Char) (node : Node) : Prop where
  whole : text.length < textLimit → node.text = some (String.ofList text)
  marked : textLimit ≤ text.length →
    node.text = some (String.ofList (text.take textLimit) ++ "...")

theorem text_ofCst (source : ByteArray) (m : Cst) :
    (Abstraction.ofCst source m).text = some (textOf source m.extent) := by
  rw [Abstraction.ofCst_eq, Abstraction.build, Node.text]

theorem Covers.keeps {content : String} {m : Cst} {front text : List Char}
    (covers : Covers content m.extent front text) :
    Keeps text (Abstraction.ofCst content.toUTF8 m) := by
  refine ⟨fun short => ?_, fun long => ?_⟩
  · rw [text_ofCst, covers.textOf_eq, if_pos short]
  · rw [text_ofCst, covers.textOf_eq, if_neg (Nat.not_lt.2 long)]
    rfl

/-- **A node keeps the text that it covers if it is shorter than the limit, and the first of it with
a mark otherwise.**  A text is parsed if its concrete tree has no error.  If the ends of the nodes
lie between characters, the nodes of the abstract tree are, one for one, those of the concrete tree
with what is kept of the characters between their ends. -/
theorem parseSource_texts (grammar : Grammar) (filePath content : String) (root : Cst)
    (given : grammar content = some root) (clean : root.hasError = false)
    (between : ∀ m ∈ root.preorder, BetweenCharacters content m.extent) :
    ∃ ast, parseSource grammar filePath content = .ok ast ∧
      List.Forall₂ (fun m node => ∃ front text, Covers content m.extent front text ∧
        Keeps text node) root.preorder ast.preorder := by
  refine ⟨_, parseSource_of_clean given clean, ?_⟩
  rw [Abstraction.preorder_ofCst, List.forall₂_map_right_iff, List.forall₂_same]
  intro m hm
  obtain ⟨front, text, covers⟩ := (between m hm).exists_covers
  exact ⟨front, text, covers, covers.keeps⟩

/-! ## Texts of one character -/

/-- A text that repeats one character. -/
def repeated (c : Char) (n : Nat) : String :=
  String.ofList (List.replicate n c)

/-- A tree of one node that covers such a text. -/
def repeatedRoot (c : Char) (n : Nat) : Cst :=
  let stop := n * (encode [c]).length
  .mk "program" ⟨0, stop, ⟨0, 0⟩, ⟨0, stop⟩⟩ false false []

theorem length_encode_replicate (c : Char) (n : Nat) :
    (encode (List.replicate n c)).length = n * (encode [c]).length := by
  induction n with
  | zero => rw [Nat.zero_mul]; rfl
  | succ n ih =>
      rw [List.replicate_succ, ← List.singleton_append, length_encode_append, ih, Nat.succ_mul,
        Nat.add_comm]

theorem covers_repeated (c : Char) (n : Nat) :
    Covers (repeated c n) (repeatedRoot c n).extent [] (List.replicate n c) := by
  have whole : (repeated c n).toList = List.replicate n c := String.toList_ofList
  refine ⟨⟨List.nil_prefix, rfl⟩, ⟨?_, ?_⟩⟩
  · rw [whole]
    exact List.prefix_refl _
  · rw [List.nil_append, length_encode_replicate]
    rfl

theorem parseSource_texts_of_euroSigns :
    (repeatedRoot '€' 1001).hasError = false ∧
      (∀ m ∈ (repeatedRoot '€' 1001).preorder, BetweenCharacters (repeated '€' 1001) m.extent) ∧
      ∃ ast, parseSource (fun _ => some (repeatedRoot '€' 1001)) "Euro.java" (repeated '€' 1001) =
          .ok ast ∧
        List.Forall₂ (fun m node => ∃ front text,
          Covers (repeated '€' 1001) m.extent front text ∧ Keeps text node)
          (repeatedRoot '€' 1001).preorder ast.preorder := by
  have between : ∀ m ∈ (repeatedRoot '€' 1001).preorder,
      BetweenCharacters (repeated '€' 1001) m.extent := by
    intro m hm
    obtain rfl := List.mem_singleton.1 hm
    have covers := covers_repeated '€' 1001
    exact ⟨⟨_, covers.start⟩, ⟨_, covers.stop⟩, Int.natCast_nonneg _⟩
  exact ⟨rfl, between, parseSource_texts _ "Euro.java" _ _ rfl rfl between⟩

/-- A node that covers as many characters as the limit allows keeps all of them, and has the mark
of a text that was cut; so it does not have the text that it covers. -/
theorem full_marked :
    Covers (repeated 'x' 1000) (repeatedRoot 'x' 1000).extent [] (List.replicate 1000 'x') ∧
      (List.replicate 1000 'x').length = textLimit ∧
      ∃ ast, parseSource (fun _ => some (repeatedRoot 'x' 1000)) "Full.java" (repeated 'x' 1000) =
          .ok ast ∧
        ast.text = some (repeated 'x' 1000 ++ "...") ∧ ast.text ≠ some (repeated 'x' 1000) := by
  have covers := covers_repeated 'x' 1000
  have limit : (List.replicate 1000 'x').length = textLimit := List.length_replicate
  have text : (Abstraction.ofCst (repeated 'x' 1000).toUTF8 (repeatedRoot 'x' 1000)).text =
      some (repeated 'x' 1000 ++ "...") := by
    rw [covers.keeps.marked (Nat.le_of_eq limit.symm), List.take_of_length_le (Nat.le_of_eq limit),
      repeated]
  refine ⟨covers, limit, _, parseSource_of_clean rfl rfl, text, ?_⟩
  rw [text]
  intro same
  have lengths := congrArg String.length (Option.some.inj same)
  rw [String.length_append] at lengths
  exact absurd lengths (Nat.ne_of_gt (Nat.lt_add_of_pos_right (by decide)))

end ModifierLint.Java
