/-
# Decoding undoes encoding

`Text.Utf8.encode` writes characters as octets, and the lossy decoder reads them back:
`decodeLossy_encode`.  The decoder is followed from one octet to the next: the first octet of a
character puts it into a state that holds the high bits (`lead_two`, `lead_three`, `lead_four`),
and a continuation octet adds six bits if it lies in the range that the state admits
(`decodeFrom_tail`).  That the ranges always admit what the encoder writes is where the limits of
the code space come in: no overlong form, no surrogate, nothing above U+10FFFF.
-/
import ModifierLint.Text.Utf8

namespace ModifierLint.Text.Utf8

/-- The octets of characters. -/
def encode (cs : List Char) : List UInt8 :=
  cs.flatMap String.utf8EncodeChar

theorem encode_cons (c : Char) (cs : List Char) :
    encode (c :: cs) = String.utf8EncodeChar c ++ encode cs :=
  List.flatMap_cons

theorem encode_append (as bs : List Char) : encode (as ++ bs) = encode as ++ encode bs :=
  List.flatMap_append

/-- The octets of a text are those of its characters. -/
theorem toUTF8_toList (s : String) : s.toUTF8.data.toList = encode s.toList := by
  rw [String.toUTF8_eq_toByteArray, ← String.utf8Encode_toList, List.utf8Encode]
  simp [encode]

theorem toNat_octet {n : Nat} (h : n < 0x100) : (UInt8.ofNat n).toNat = n :=
  UInt8.toNat_ofNat_of_lt' h

/-! ## First octets -/

theorem lead_one {n : Nat} (h : n < 0x80) : lead (.ofNat n) = .single (Char.ofNat n) := by
  rw [lead, toNat_octet (by omega)]
  simp only [h, if_true]

theorem lead_two {n : Nat} (low : 2 ≤ n) (high : n < 0x20) :
    lead (.ofNat (n + 0xC0)) = .opens ⟨n, 1, 0x80, 0xBF⟩ := by
  rw [lead, toNat_octet (by omega), if_neg (by omega), if_neg (by omega), if_pos (by omega),
    Nat.add_sub_cancel]

theorem lead_three {n : Nat} (high : n < 0x10) :
    lead (.ofNat (n + 0xE0)) =
      .opens ⟨n, 2, if n = 0 then 0xA0 else 0x80, if n = 0xD then 0x9F else 0xBF⟩ := by
  have first : n + 0xE0 = 0xE0 ↔ n = 0 := by omega
  have surrogates : n + 0xE0 = 0xED ↔ n = 0xD := by omega
  rw [lead, toNat_octet (by omega)]
  simp only [first, surrogates]
  rw [if_neg (by omega), if_neg (by omega), if_neg (by omega), if_pos (by omega),
    Nat.add_sub_cancel]

theorem lead_four {n : Nat} (high : n < 5) :
    lead (.ofNat (n + 0xF0)) =
      .opens ⟨n, 3, if n = 0 then 0x90 else 0x80, if n = 4 then 0x8F else 0xBF⟩ := by
  have first : n + 0xF0 = 0xF0 ↔ n = 0 := by omega
  have last : n + 0xF0 = 0xF4 ↔ n = 4 := by omega
  rw [lead, toNat_octet (by omega)]
  simp only [first, last]
  rw [if_neg (by omega), if_neg (by omega), if_neg (by omega), if_neg (by omega),
    if_pos (by omega), Nat.add_sub_cancel]

/-! ## Continuation octets -/

/-- A continuation octet within the range of the state adds its six bits. -/
theorem decodeFrom_tail {value missing low high n : Nat} {rest : List UInt8}
    (least : low ≤ n % 0x40 + 0x80) (greatest : n % 0x40 + 0x80 ≤ high) :
    decodeFrom (some ⟨value, missing, low, high⟩) (.ofNat (n % 0x40 + 0x80) :: rest) =
      if missing = 1 then Char.ofNat (value * 64 + n % 0x40) :: decodeFrom none rest
      else decodeFrom (some ⟨value * 64 + n % 0x40, missing - 1, 0x80, 0xBF⟩) rest := by
  have octet : (UInt8.ofNat (n % 0x40 + 0x80)).toNat = n % 0x40 + 0x80 :=
    toNat_octet (by omega)
  have bits : (UInt8.ofNat (n % 0x40 + 0x80)).toNat - 0x80 = n % 0x40 := by omega
  have admitted : (⟨value, missing, low, high⟩ : Pending).admits (.ofNat (n % 0x40 + 0x80)) := by
    rw [Pending.admits, octet, Bool.and_eq_true, decide_eq_true_eq, decide_eq_true_eq]
    exact ⟨least, greatest⟩
  have more : (⟨value, missing, low, high⟩ : Pending).advance (.ofNat (n % 0x40 + 0x80)) =
      ⟨value * 64 + n % 0x40, missing - 1, 0x80, 0xBF⟩ := by
    unfold Pending.advance
    rw [bits]
  simp only [decodeFrom, admitted, if_true, more]

/-! ## Characters -/

/-- The decoder reads a character off the front of its octets. -/
theorem decodeFrom_encodeChar (c : Char) (rest : List UInt8) :
    decodeFrom none (String.utf8EncodeChar c ++ rest) = c :: decodeFrom none rest := by
  have valid : c.toNat < 0xD800 ∨ 0xDFFF < c.toNat ∧ c.toNat < 0x110000 := c.valid
  have value : Char.ofNat c.toNat = c := Char.ofNat_toNat c
  unfold String.utf8EncodeChar
  simp only [Char.toNat_val]
  generalize c.toNat = v at valid value
  split
  · next one =>
      rw [List.singleton_append, decodeFrom, lead_one (by omega), value]
  split
  · next two =>
      have opening : v / 64 % 0x20 = v / 64 := by omega
      have whole : v / 64 * 64 + v % 64 = v := by omega
      rw [opening, List.cons_append, List.cons_append, List.nil_append, decodeFrom,
        lead_two (by omega) (by omega)]
      simp only
      rw [decodeFrom_tail (by omega) (by omega), if_pos rfl, whole, value]
  split
  · next three =>
      have opening : v / 4096 % 0x10 = v / 4096 := by omega
      have whole : (v / 4096 * 64 + v / 64 % 64) * 64 + v % 64 = v := by omega
      rw [opening, List.cons_append, List.cons_append, List.cons_append, List.nil_append,
        decodeFrom, lead_three (by omega)]
      simp only
      rw [decodeFrom_tail (by split <;> omega) (by split <;> omega), if_neg (by omega),
        decodeFrom_tail (by omega) (by omega), if_pos rfl, whole, value]
  · next four =>
      have opening : v / 262144 % 0x08 = v / 262144 := by omega
      have whole : ((v / 262144 * 64 + v / 4096 % 64) * 64 + v / 64 % 64) * 64 + v % 64 = v := by
        omega
      rw [opening, List.cons_append, List.cons_append, List.cons_append, List.cons_append,
        List.nil_append, decodeFrom, lead_four (by omega)]
      simp only
      rw [decodeFrom_tail (by split <;> omega) (by split <;> omega), if_neg (by omega),
        decodeFrom_tail (by omega) (by omega), if_neg (by omega),
        decodeFrom_tail (by omega) (by omega), if_pos rfl, whole, value]

/-- Decoding undoes encoding. -/
theorem decodeLossy_encode (cs : List Char) : decodeLossy (encode cs) = cs := by
  induction cs with
  | nil => rfl
  | cons c cs ih =>
      rw [decodeLossy, encode_cons, decodeFrom_encodeChar]
      exact congrArg (c :: ·) ih

end ModifierLint.Text.Utf8
