/-
# Strings between quotes

`Json.quote` writes a text in printable ASCII: a character stands for itself, or an escape stands
for it.  Reading undoes this character by character, because every escape is read back as the
character that it was written for, whatever follows (`Json.escape_plain_or_escaped`).  A character
beyond the first 65536 takes two escapes, which are only read together.
-/
import ModifierLint.Json

namespace ModifierLint.Json

open Text.Quoted (hex hexDigit)

/-- Characters of ASCII. -/
def Ascii (cs : List Char) : Prop :=
  ∀ c ∈ cs, c.toNat < 128

theorem Ascii.append {a b : List Char} (ha : Ascii a) (hb : Ascii b) : Ascii (a ++ b) :=
  List.forall_mem_append.2 ⟨ha, hb⟩

/-- Whether all characters are of ASCII can be tested. -/
instance (cs : List Char) : Decidable (Ascii cs) :=
  List.decidableBAll (fun c : Char => c.toNat < 128) cs

/-! ## Hexadecimal digits -/

theorem baseDigit?_hexDigit : ∀ d < 16, Text.baseDigit? 16 (hexDigit d) = some d := by
  decide

theorem toNat_hexDigit_lt : ∀ d < 16, (hexDigit d).toNat < 128 := by
  decide

theorem hex_four (n : Nat) : hex 4 n =
    [hexDigit (n / 4096 % 16), hexDigit (n / 256 % 16), hexDigit (n / 16 % 16),
      hexDigit (n % 16)] := by
  show [hexDigit (n / 4096 % 16), hexDigit (n / 256 % 16), hexDigit (n / 16 % 16),
    hexDigit (n / 1 % 16)] = _
  rw [Nat.div_one]

/-- Four digits are read as the number that they were written for. -/
theorem unit?_hex {n : Nat} (small : n < 65536) (rest : List Char) :
    unit? (hex 4 n ++ rest) = some (n, rest) := by
  have digit (m : Nat) : Text.baseDigit? 16 (hexDigit (m % 16)) = some (m % 16) :=
    baseDigit?_hexDigit _ (Nat.mod_lt m (by omega))
  have parts : ((n / 4096 % 16 * 16 + n / 256 % 16) * 16 + n / 16 % 16) * 16 + n % 16 = n := by
    omega
  rw [hex_four]
  simp only [List.cons_append, List.nil_append, unit?, digit, Option.bind_eq_bind,
    Option.bind_some, Option.pure_def, parts]

/-! ## One character -/

/-- A unit that is no surrogate is read as the character with its number. -/
theorem unescape?_unit {n : Nat} (plain : n < 0xD800 ∨ 0xE000 ≤ n ∧ n < 65536) (rest : List Char) :
    unescape? ('u' :: (hex 4 n ++ rest)) = some (Char.ofNat n, rest) := by
  have small : n < 65536 := by omega
  have high : ¬(0xD800 ≤ n && n < 0xDC00) = true := by
    rw [Bool.and_eq_true, decide_eq_true_eq, decide_eq_true_eq]
    omega
  have low : ¬(0xDC00 ≤ n && n < 0xE000) = true := by
    rw [Bool.and_eq_true, decide_eq_true_eq, decide_eq_true_eq]
    omega
  rw [unescape?, unit?_hex small, Option.bind_eq_bind, Option.bind_some]
  dsimp only
  rw [if_neg high, if_neg low, Option.pure_def]

/-- A high and a low surrogate are read as one character. -/
theorem unescape?_pair {high low : Nat} (isHigh : 0xD800 ≤ high ∧ high < 0xDC00)
    (isLow : 0xDC00 ≤ low ∧ low < 0xE000) (rest : List Char) :
    unescape? ('u' :: (hex 4 high ++ '\\' :: 'u' :: (hex 4 low ++ rest))) =
      some (Char.ofNat (0x10000 + (high - 0xD800) * 0x400 + (low - 0xDC00)), rest) := by
  have first : high < 65536 := by omega
  have second : low < 65536 := by omega
  have inHigh : (0xD800 ≤ high && high < 0xDC00) = true := by
    rw [Bool.and_eq_true, decide_eq_true_eq, decide_eq_true_eq]
    exact isHigh
  have inLow : (0xDC00 ≤ low && low < 0xE000) = true := by
    rw [Bool.and_eq_true, decide_eq_true_eq, decide_eq_true_eq]
    exact isLow
  rw [unescape?, unit?_hex first, Option.bind_eq_bind, Option.bind_some]
  dsimp only
  rw [if_pos inHigh]
  show (unit? (hex 4 low ++ rest)).bind _ = _
  rw [unit?_hex second, Option.bind_some, if_pos inLow, Option.pure_def]

/-- The code point of a character lies beside the surrogates. -/
theorem toNat_cases (c : Char) : c.toNat < 0xD800 ∨ 0xE000 ≤ c.toNat ∧ c.toNat < 0x110000 :=
  c.valid

/-- A character beyond the first 65536 is made of two surrogates. -/
theorem surrogates {n : Nat} (large : 0x10000 ≤ n) (small : n < 0x110000) :
    (0xD800 ≤ 0xD800 + (n - 0x10000) / 0x400 ∧ 0xD800 + (n - 0x10000) / 0x400 < 0xDC00) ∧
    (0xDC00 ≤ 0xDC00 + (n - 0x10000) % 0x400 ∧ 0xDC00 + (n - 0x10000) % 0x400 < 0xE000) ∧
    0x10000 + (0xD800 + (n - 0x10000) / 0x400 - 0xD800) * 0x400 +
      (0xDC00 + (n - 0x10000) % 0x400 - 0xDC00) = n := by
  omega

/-- A character has an escape of one letter, or is written by its number unless it is printable. -/
theorem escape_letter_or_number (c : Char) :
    (∃ letter, letter.toNat < 128 ∧ escape c = ['\\', letter] ∧
      ∀ rest, unescape? (letter :: rest) = some (c, rest)) ∨
    c ≠ '\"' ∧ c ≠ '\\' ∧ escape c =
      if 0x20 ≤ c.toNat && c.toNat < 0x7F then [c]
      else if c.toNat < 0x10000 then unitEscape c.toNat
      else unitEscape (0xD800 + (c.toNat - 0x10000) / 0x400) ++
        unitEscape (0xDC00 + (c.toNat - 0x10000) % 0x400) := by
  by_cases letter : c = '\"' ∨ c = '\\' ∨ c = '\n' ∨ c = '\r' ∨ c = '\t' ∨ c = '\x0c' ∨ c = '\x08'
  · left
    rcases letter with rfl | rfl | rfl | rfl | rfl | rfl | rfl
    · exact ⟨'\"', by decide, rfl, fun _ => rfl⟩
    · exact ⟨'\\', by decide, rfl, fun _ => rfl⟩
    · exact ⟨'n', by decide, rfl, fun _ => rfl⟩
    · exact ⟨'r', by decide, rfl, fun _ => rfl⟩
    · exact ⟨'t', by decide, rfl, fun _ => rfl⟩
    · exact ⟨'f', by decide, rfl, fun _ => rfl⟩
    · exact ⟨'b', by decide, rfl, fun _ => rfl⟩
  · simp only [not_or] at letter
    obtain ⟨quote, backslash, lf, cr, tab, ff, bs⟩ := letter
    refine .inr ⟨quote, backslash, ?_⟩
    rw [escape, if_neg quote, if_neg backslash, if_neg lf, if_neg cr, if_neg tab, if_neg ff,
      if_neg bs]

/-- A character is written as it is, or by escapes that are read back as this character. -/
theorem escape_plain_or_escaped (c : Char) :
    (escape c = [c] ∧ c ≠ '\"' ∧ c ≠ '\\' ∧ 0x20 ≤ c.toNat) ∨
    ∃ body, escape c = '\\' :: body ∧ ∀ rest, unescape? (body ++ rest) = some (c, rest) := by
  rcases escape_letter_or_number c with ⟨letter, -, short, back⟩ | ⟨quote, backslash, general⟩
  · exact .inr ⟨[letter], short, back⟩
  rw [general]
  by_cases printable : (0x20 ≤ c.toNat && c.toNat < 0x7F) = true
  · rw [if_pos printable]
    simp only [Bool.and_eq_true, decide_eq_true_eq] at printable
    exact .inl ⟨rfl, quote, backslash, printable.1⟩
  rw [if_neg printable]
  have place := toNat_cases c
  by_cases small : c.toNat < 0x10000
  · rw [if_pos small]
    refine .inr ⟨'u' :: hex 4 c.toNat, rfl, fun rest => ?_⟩
    rw [List.cons_append, unescape?_unit (by omega), Char.ofNat_toNat]
  · rw [if_neg small]
    refine .inr ⟨'u' :: (hex 4 (0xD800 + (c.toNat - 0x10000) / 0x400) ++
      '\\' :: 'u' :: hex 4 (0xDC00 + (c.toNat - 0x10000) % 0x400)), rfl, fun rest => ?_⟩
    obtain ⟨high, low, whole⟩ := surrogates (n := c.toNat) (by omega) (by omega)
    have back := unescape?_pair high low rest
    rw [whole, Char.ofNat_toNat] at back
    rw [List.cons_append, List.append_assoc, List.cons_append, List.cons_append, back]

theorem ascii_unitEscape (n : Nat) : Ascii (unitEscape n) := by
  intro c hc
  rw [unitEscape, hex_four] at hc
  simp only [List.mem_cons, List.not_mem_nil, or_false] at hc
  rcases hc with rfl | rfl | rfl | rfl | rfl | rfl
  · decide
  · decide
  all_goals exact toNat_hexDigit_lt _ (Nat.mod_lt _ (by omega))

/-- Every character is written in ASCII. -/
theorem ascii_escape (c : Char) : Ascii (escape c) := by
  rcases escape_letter_or_number c with ⟨letter, ascii, short, -⟩ | ⟨-, -, general⟩
  · rw [short]
    exact List.forall_mem_cons.2 ⟨by decide, List.forall_mem_singleton.2 ascii⟩
  rw [general]
  split
  · next printable =>
      simp only [Bool.and_eq_true, decide_eq_true_eq] at printable
      exact List.forall_mem_singleton.2 (by omega)
  split
  · exact ascii_unitEscape _
  · exact (ascii_unitEscape _).append (ascii_unitEscape _)

/-! ## Whole strings -/

/-- One turn of the reader takes in one written character. -/
theorem stringBody_escape (fuel : Nat) (acc : List Char) (c : Char) (rest : List Char) :
    stringBody (fuel + 1) acc (escape c ++ rest) = stringBody fuel (c :: acc) rest := by
  rcases escape_plain_or_escaped c with ⟨plain, quote, backslash, large⟩ | ⟨body, escaped, back⟩
  · rw [plain, List.singleton_append, stringBody, if_neg quote, if_neg backslash,
      if_neg (Nat.not_lt.2 large)]
  · have quote : '\\' ≠ '\"' := by decide
    rw [escaped, List.cons_append, stringBody, if_neg quote, if_pos rfl, back, Option.bind_some]

/-- A text is read back from its written characters, up to the closing quote. -/
theorem stringBody_text (s rest : List Char) : ∀ (fuel : Nat) (acc : List Char), s.length < fuel →
    stringBody fuel acc (s.flatMap escape ++ '\"' :: rest) =
      some (String.ofList (acc.reverse ++ s), rest) := by
  induction s with
  | nil =>
      intro fuel acc enough
      obtain ⟨fuel, rfl⟩ := Nat.exists_eq_succ_of_ne_zero (Nat.ne_of_gt enough)
      rw [List.flatMap_nil, List.nil_append, stringBody, if_pos rfl, List.append_nil]
  | cons c s ih =>
      intro fuel acc enough
      obtain ⟨fuel, rfl⟩ := Nat.exists_eq_succ_of_ne_zero (Nat.ne_of_gt (Nat.zero_lt_of_lt enough))
      rw [List.flatMap_cons, List.append_assoc, stringBody_escape,
        ih fuel (c :: acc) (Nat.lt_of_succ_lt_succ enough), List.reverse_cons, List.append_assoc,
        List.singleton_append]

theorem escape_ne_nil (c : Char) : escape c ≠ [] := by
  rcases escape_plain_or_escaped c with ⟨plain, -⟩ | ⟨body, escaped, -⟩
  · rw [plain]
    exact List.cons_ne_nil _ _
  · rw [escaped]
    exact List.cons_ne_nil _ _

theorem length_le_flatMap_escape (s : List Char) : s.length ≤ (s.flatMap escape).length := by
  induction s with
  | nil => exact Nat.le_refl 0
  | cons c s ih =>
      have one := List.length_pos_iff.2 (escape_ne_nil c)
      rw [List.flatMap_cons, List.length_append, List.length_cons]
      omega

theorem toList_quote (s : String) :
    (quote s).toList = '\"' :: (s.toList.flatMap escape ++ ['\"']) := by
  rw [quote, String.toList_ofList, List.cons_append]

/-- The reader gets a quoted text with enough turns to read it. -/
theorem stringBody_quoted (s : String) (rest : List Char) :
    stringBody ((s.toList.flatMap escape ++ '\"' :: rest).length + 1) []
      (s.toList.flatMap escape ++ '\"' :: rest) = some (s, rest) := by
  have enough : s.toList.length < (s.toList.flatMap escape ++ '\"' :: rest).length + 1 := by
    have := length_le_flatMap_escape s.toList
    rw [List.length_append]
    omega
  rw [stringBody_text s.toList rest _ [] enough, List.reverse_nil, List.nil_append,
    String.ofList_toList]

/-- A quoted text is ASCII. -/
theorem ascii_quote (s : String) : Ascii (quote s).toList := by
  intro c hc
  rw [toList_quote] at hc
  rcases List.mem_cons.1 hc with rfl | hc
  · decide
  rcases List.mem_append.1 hc with hc | hc
  · obtain ⟨d, -, hd⟩ := List.mem_flatMap.1 hc
    exact ascii_escape d c hd
  · rw [List.mem_singleton.1 hc]
    decide

end ModifierLint.Json
