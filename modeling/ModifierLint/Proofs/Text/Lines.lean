/-
# Lines in characters and in octets

A line ends with a break.  `lastLine` is what stands behind the last break, for lists of anything,
so that it serves characters and octets alike.  A line feed is written as one octet that no other
character has, hence what stands behind the last line feed is written as what stands behind the
last octet of that kind (`Utf8.lastLine_encode`), and there are as many of one as of the other
(`Utf8.count_encode`).
-/
import ModifierLint.Proofs.Text.Encoding

namespace ModifierLint.Text

section

variable {α : Type}

/-- A list with a break can be taken apart at its last one. -/
theorem eq_append_last {br : α} {l : List α} (h : br ∈ l) :
    ∃ as bs, l = as ++ br :: bs ∧ br ∉ bs := by
  obtain ⟨back, front, parts, fresh⟩ := List.eq_append_cons_of_mem (List.mem_reverse.2 h)
  refine ⟨front.reverse, back.reverse, ?_, fun hb => fresh (List.mem_reverse.1 hb)⟩
  rw [← List.reverse_reverse l, parts, List.reverse_append, List.reverse_cons, List.append_assoc,
    List.singleton_append]

variable [BEq α]

/-- What stands behind the last break, or everything if there is none. -/
def lastLine (br : α) (l : List α) : List α :=
  (l.reverse.takeWhile (· != br)).reverse

theorem lastLine_suffix (br : α) (l : List α) : lastLine br l <:+ l := by
  have front := List.takeWhile_prefix (· != br) (l := l.reverse)
  rw [← List.reverse_prefix, lastLine, List.reverse_reverse]
  exact front

variable [LawfulBEq α]

theorem bne_of_not_mem {br : α} {l : List α} (h : br ∉ l) : ∀ a ∈ l.reverse, (a != br) = true := by
  intro a ha
  rw [bne_iff_ne]
  rintro rfl
  exact h (List.mem_reverse.1 ha)

theorem lastLine_of_not_mem {br : α} {l : List α} (h : br ∉ l) : lastLine br l = l := by
  have all : (l.reverse ++ []).takeWhile (· != br) = l.reverse ++ [].takeWhile (· != br) :=
    List.takeWhile_append_of_pos (bne_of_not_mem h)
  rw [List.append_nil, List.takeWhile_nil, List.append_nil] at all
  rw [lastLine, all, List.reverse_reverse]

/-- The last line grows with what is written behind it and has no break. -/
theorem lastLine_append {br : α} {as bs : List α} (h : br ∉ bs) :
    lastLine br (as ++ bs) = lastLine br as ++ bs := by
  rw [lastLine, List.reverse_append, List.takeWhile_append_of_pos (bne_of_not_mem h),
    List.reverse_append, List.reverse_reverse, lastLine]

theorem lastLine_append_cons {br : α} {as bs : List α} (h : br ∉ bs) :
    lastLine br (as ++ br :: bs) = bs := by
  have stop : (br != br) = false := bne_self_eq_false br
  rw [lastLine, List.reverse_append, List.reverse_cons, List.append_assoc,
    List.takeWhile_append_of_pos (bne_of_not_mem h), List.singleton_append,
    List.takeWhile_cons_of_neg (by rw [stop]; decide), List.append_nil, List.reverse_reverse]

end

namespace Utf8

/-- The octet of a line feed. -/
def lineFeed : UInt8 := 10

theorem encode_lineFeed : String.utf8EncodeChar '\n' = [lineFeed] := by decide

/-- No other character is written with the octet of a line feed. -/
theorem lineFeed_not_mem {c : Char} (h : c ≠ '\n') : lineFeed ∉ String.utf8EncodeChar c := by
  have value : c.toNat ≠ 10 := fun hv => h (Char.toNat_inj.1 hv)
  have valid : c.toNat < 0xD800 ∨ 0xDFFF < c.toNat ∧ c.toNat < 0x110000 := c.valid
  have other {n : Nat} (small : n < 0x100) (ne : n ≠ 10) : lineFeed ≠ UInt8.ofNat n := by
    intro same
    have := congrArg UInt8.toNat same
    rw [toNat_octet small] at this
    exact ne this.symm
  unfold String.utf8EncodeChar
  simp only [Char.toNat_val]
  generalize c.toNat = v at value valid
  split
  · simp only [List.mem_cons, List.not_mem_nil, or_false]
    exact other (by omega) value
  split
  · simp only [List.mem_cons, List.not_mem_nil, or_false, not_or]
    exact ⟨other (by omega) (by omega), other (by omega) (by omega)⟩
  split
  · simp only [List.mem_cons, List.not_mem_nil, or_false, not_or]
    exact ⟨other (by omega) (by omega), other (by omega) (by omega), other (by omega) (by omega)⟩
  · simp only [List.mem_cons, List.not_mem_nil, or_false, not_or]
    exact ⟨other (by omega) (by omega), other (by omega) (by omega), other (by omega) (by omega),
      other (by omega) (by omega)⟩

theorem count_encode (cs : List Char) : (encode cs).count lineFeed = cs.count '\n' := by
  induction cs with
  | nil => rfl
  | cons c cs ih =>
      rw [encode_cons, List.count_append, ih]
      by_cases h : c = '\n'
      · rw [h, encode_lineFeed, List.count_singleton_self, List.count_cons_self, Nat.add_comm]
      · rw [List.count_eq_zero_of_not_mem (lineFeed_not_mem h), Nat.zero_add,
          List.count_cons_of_ne h]

theorem lineFeed_mem_encode {cs : List Char} : lineFeed ∈ encode cs ↔ '\n' ∈ cs := by
  rw [← List.count_pos_iff, count_encode, List.count_pos_iff]

/-- The last line of octets is the last line of characters in octets. -/
theorem lastLine_encode (cs : List Char) :
    lastLine lineFeed (encode cs) = encode (lastLine '\n' cs) := by
  by_cases h : '\n' ∈ cs
  · obtain ⟨as, bs, rfl, fresh⟩ := eq_append_last h
    have fresh' : lineFeed ∉ encode bs := fun hb => fresh (lineFeed_mem_encode.1 hb)
    rw [lastLine_append_cons fresh, encode_append, encode_cons, encode_lineFeed,
      List.singleton_append, lastLine_append_cons fresh']
  · have h' : lineFeed ∉ encode cs := fun hb => h (lineFeed_mem_encode.1 hb)
    rw [lastLine_of_not_mem h, lastLine_of_not_mem h']

end Utf8

end ModifierLint.Text
