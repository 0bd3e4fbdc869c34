/-
# Decoding prefixes

The lossy decoder gives every list of octets a number of characters, also one that ends in the
middle of a character: what is unfinished counts as one.  One more octet adds one character at most
and takes none away (`length_decodeFrom_concat`).  The reason is that a character under way has been
counted as soon as it was opened.  An octet that continues it does not add to the count, and an
octet that does not fit leaves the count of what was under way as it is and starts afresh.

So the number of characters of a prefix grows with the prefix, and by no more than the octets
(`length_decodeLossy_append`).
-/
import ModifierLint.Text.Utf8

namespace ModifierLint.Text.Utf8

/-- An octet on its own is one character. -/
theorem length_decodeFrom_octet (octet : UInt8) : (decodeFrom none [octet]).length = 1 := by
  cases means : lead octet with
  | single c => simp only [decodeFrom, means, List.length_singleton]
  | opens p => simp only [decodeFrom, means, List.length_singleton]
  | invalid => simp only [decodeFrom, means, List.length_singleton]

/-- An octet behind a character under way belongs to it, or is one character more. -/
theorem length_decodeFrom_under (p : Pending) (octet : UInt8) :
    1 ≤ (decodeFrom (some p) [octet]).length ∧ (decodeFrom (some p) [octet]).length ≤ 2 := by
  by_cases fits : p.admits octet = true
  · by_cases last : p.missing = 1
    · simp only [decodeFrom, fits, last, if_true, List.length_singleton]
      exact ⟨Nat.le_refl 1, by decide⟩
    · simp only [decodeFrom, fits, last, if_true, if_false, List.length_singleton]
      exact ⟨Nat.le_refl 1, by decide⟩
  · have afresh : decodeFrom (some p) [octet] = replacement :: decodeFrom none [octet] := by
      cases means : lead octet <;> simp [decodeFrom, fits, means]
    rw [afresh, List.length_cons, length_decodeFrom_octet]
    exact ⟨by decide, Nat.le_refl 2⟩

/-- One more octet adds one character at most, and takes none away. -/
theorem length_decodeFrom_concat (pending : Option Pending) (octets : List UInt8) (octet : UInt8) :
    (decodeFrom pending octets).length ≤ (decodeFrom pending (octets ++ [octet])).length ∧
      (decodeFrom pending (octets ++ [octet])).length ≤ (decodeFrom pending octets).length + 1 := by
  fun_induction decodeFrom pending octets with
  | case1 =>
      rw [List.nil_append, length_decodeFrom_octet]
      exact ⟨Nat.zero_le 1, Nat.le_refl 1⟩
  | case2 p =>
      rw [List.nil_append]
      exact length_decodeFrom_under p octet
  -- an octet in front of the rest changes both sides in the same way
  | _ => simp_all [decodeFrom]

/-- More octets add as many characters at most, and take none away. -/
theorem length_decodeLossy_append (octets more : List UInt8) :
    (decodeLossy octets).length ≤ (decodeLossy (octets ++ more)).length ∧
      (decodeLossy (octets ++ more)).length ≤ (decodeLossy octets).length + more.length := by
  induction more generalizing octets with
  | nil =>
      rw [List.append_nil]
      exact ⟨Nat.le_refl _, Nat.le_refl _⟩
  | cons octet more ih =>
      obtain ⟨least, greatest⟩ := length_decodeFrom_concat none octets octet
      obtain ⟨least', greatest'⟩ := ih (octets ++ [octet])
      rw [List.append_assoc, List.singleton_append] at least' greatest'
      unfold decodeLossy at least' greatest' ⊢
      rw [List.length_cons]
      exact ⟨Nat.le_trans least least', by omega⟩

end ModifierLint.Text.Utf8
