/-
# Reading what was written

`Json.parse` undoes `Json.render`, in every layout, for the values that JSON has a form of its own
for and that are exact in it: null, truth values, integers of any size, texts, lists and records
(`Json.Plain`).  The written form of such a value is plain ASCII.

`Json.ReadsAs` says of some characters that they are read as a value, whatever comes after them, as
long as it does not go on with a number; the reader is given at least as many turns as there are
characters.  This is what is proved of every value by induction, since it is what a reader of a list
or of a record needs to know of the parts.
-/
import ModifierLint.Proofs.Json.Layout
import ModifierLint.Proofs.Json.Quotation
import ModifierLint.Proofs.Text.Digits

namespace ModifierLint.Json

open Text (isDigit_toDigits ne_of_isDigit)

/-- The values that JSON can hold as they are. -/
inductive Plain : Value → Prop
  | null : Plain .null
  | bool (b : Bool) : Plain (.bool b)
  | int (n : Int) : Plain (.int n)
  | str (s : String) : Plain (.str s)
  | list {items : List Value} : (∀ v ∈ items, Plain v) → Plain (.list items)
  | record {fields : List (String × Value)} : (∀ f ∈ fields, Plain f.2) → Plain (.record fields)

/-- What follows does not go on with a number. -/
def Apart (rest : List Char) : Prop :=
  ∀ c more, rest = c :: more → c.isDigit = false ∧ c ≠ '.' ∧ c ≠ 'e' ∧ c ≠ 'E'

/-- The characters are read as the value, whatever follows. -/
structure ReadsAs (text : List Char) (v : Value) : Prop where
  head : ∃ c more, text = c :: more ∧ isSpace c = false ∧ c ≠ ']'
  read : ∀ fuel rest, text.length ≤ fuel → Apart rest →
    value? fuel (text ++ rest) = some (v, rest)

/-! ## What follows a value -/

theorem apart_nil : Apart [] := by
  intro c more followed
  cases followed

theorem apart_cons {c : Char} (ends : c = ',' ∨ c = ']' ∨ c = '\x7d' ∨ isSpace c = true)
    (rest : List Char) : Apart (c :: rest) := by
  rintro c' more ⟨⟩
  rcases ends with rfl | rfl | rfl | space
  · decide
  · decide
  · decide
  · simp only [isSpace, Bool.or_eq_true, decide_eq_true_eq] at space
    rcases space with ((rfl | rfl) | rfl) | rfl <;> decide

/-- A gap and an end keep apart. -/
theorem apart_gap {gap : List Char} (blank : Gap gap) {c : Char}
    (ends : c = ',' ∨ c = ']' ∨ c = '\x7d') (rest : List Char) :
    Apart (gap ++ c :: rest) := by
  cases gap with
  | nil =>
      refine apart_cons ?_ rest
      rcases ends with ends | ends | ends
      · exact .inl ends
      · exact .inr (.inl ends)
      · exact .inr (.inr (.inl ends))
  | cons g gap => exact apart_cons (.inr (.inr (.inr (blank g List.mem_cons_self)))) _

/-- A reader passes over a gap. -/
theorem dropWhile_gap {gap : List Char} (blank : Gap gap) {c : Char} (solid : isSpace c = false)
    (rest : List Char) : (gap ++ c :: rest).dropWhile isSpace = c :: rest := by
  rw [List.dropWhile_append_of_pos blank, List.dropWhile_cons_of_neg (by rw [solid]; decide)]

theorem value?_gap {gap : List Char} (blank : Gap gap) (fuel : Nat) (cs : List Char) :
    value? fuel (gap ++ cs) = value? fuel cs := by
  cases fuel with
  | zero => rw [value?, value?]
  | succ fuel => rw [value?, value?, List.dropWhile_append_of_pos blank]

theorem items?_gap {gap : List Char} (blank : Gap gap) (fuel : Nat) (acc : List Value)
    (cs : List Char) : items? fuel acc (gap ++ cs) = items? fuel acc cs := by
  cases fuel with
  | zero => rw [items?, items?]
  | succ fuel => rw [items?, items?, value?_gap blank]

theorem fields?_gap {gap : List Char} (blank : Gap gap) (fuel : Nat)
    (acc : List (Value × Value)) (cs : List Char) :
    fields? fuel acc (gap ++ cs) = fields? fuel acc cs := by
  cases fuel with
  | zero => rw [fields?, fields?]
  | succ fuel => rw [fields?, fields?, List.dropWhile_append_of_pos blank]

/-! ## Integers -/

theorem naturalOf_toDigits (n : Nat) : naturalOf (Nat.toDigits 10 n) = n := by
  have same : naturalOf (Nat.toDigits 10 n) = Nat.ofDigitChars 10 (Nat.toDigits 10 n) 0 := by
    rw [naturalOf, Nat.ofDigitChars_eq_foldl]
    congr 1
    funext total d
    rw [Nat.mul_comm]
    rfl
  rw [same, Nat.ofDigitChars_ten_toDigits]

/-- No number but zero is written with a zero in front. -/
theorem head?_toDigits {n : Nat} (positive : 0 < n) : (Nat.toDigits 10 n).head? ≠ some '0' := by
  induction n using Nat.strongRecOn with
  | _ n ih =>
      by_cases small : n < 10
      · rw [Nat.toDigits_of_lt_base small]
        have all : ∀ d < 10, 0 < d → [d.digitChar].head? ≠ some '0' := by decide
        exact all n small positive
      · have first := ih (n / 10) (by omega) (by omega)
        rw [Nat.toDigits_of_base_le (by omega) (by omega)]
        cases digits : Nat.toDigits 10 (n / 10) with
        | nil => exact absurd digits Nat.toDigits_ne_nil
        | cons d ds =>
            rw [digits] at first
            exact first

/-- The digits of a number are all taken, and nothing else. -/
theorem digits_toDigits (n : Nat) {rest : List Char} (apart : Apart rest) :
    digits (Nat.toDigits 10 n ++ rest) = (Nat.toDigits 10 n, rest) := by
  have all := isDigit_toDigits n
  rw [digits, List.takeWhile_append_of_pos all, List.dropWhile_append_of_pos all]
  cases rest with
  | nil => simp
  | cons c rest => simp [(apart c rest rfl).1]

theorem exponentPart_apart {rest : List Char} (apart : Apart rest) :
    exponentPart rest = some (0, false, rest) := by
  cases rest with
  | nil => rfl
  | cons c rest =>
      obtain ⟨-, -, lower, upper⟩ := apart c rest rfl
      simp [exponentPart, lower, upper]

/-- A number is not empty and has no zero in front that it could do without. -/
theorem wellFormed_toDigits (n : Nat) : ((Nat.toDigits 10 n).isEmpty ||
    decide ((Nat.toDigits 10 n).length > 1) && decide ((Nat.toDigits 10 n).head? = some '0')) =
      false := by
  have some_ : (Nat.toDigits 10 n).isEmpty = false :=
    List.isEmpty_eq_false_iff.2 Nat.toDigits_ne_nil
  rw [some_, Bool.false_or, Bool.and_eq_false_iff]
  by_cases positive : 0 < n
  · exact .inr (decide_eq_false (head?_toDigits positive))
  · obtain rfl : n = 0 := by omega
    exact .inl rfl

theorem unsigned?_toDigits (negative : Bool) (n : Nat) {rest : List Char} (apart : Apart rest) :
    unsigned? negative (Nat.toDigits 10 n ++ rest) =
      some (.int (if negative then -(n : Int) else n), rest) := by
  have noFraction : ∀ more, rest ≠ '.' :: more := by
    rintro more rfl
    exact (apart '.' more rfl).2.1 rfl
  rw [unsigned?, digits_toDigits n apart]
  simp only [wellFormed_toDigits, Bool.false_eq_true, if_false, Option.bind_eq_bind,
    Option.bind_some, exponentPart_apart apart, Bool.or_self, naturalOf_toDigits, Option.pure_def]

theorem not_isSpace_of_isDigit {c : Char} (digit : c.isDigit = true) : isSpace c = false := by
  simp only [isSpace, Bool.or_eq_false_iff, decide_eq_false_iff_not]
  exact ⟨⟨⟨ne_of_isDigit digit rfl, ne_of_isDigit digit rfl⟩, ne_of_isDigit digit rfl⟩,
    ne_of_isDigit digit rfl⟩

theorem value?_digit {c : Char} (digit : c.isDigit = true) (fuel : Nat) (rest : List Char) :
    value? (fuel + 1) (c :: rest) = unsigned? false (c :: rest) := by
  have other {x : Char} (hx : x.isDigit = false) : c ≠ x := ne_of_isDigit digit hx
  rw [value?, List.dropWhile_cons_of_neg (by rw [not_isSpace_of_isDigit digit]; decide)]
  simp only [other (x := '[') rfl, other (x := '\x7b') rfl, other (x := '\"') rfl,
    other (x := 't') rfl, other (x := 'f') rfl, other (x := 'n') rfl, other (x := 'N') rfl,
    other (x := '-') rfl, other (x := 'I') rfl, if_false]

theorem value?_minus {c : Char} (digit : c.isDigit = true) (fuel : Nat) (rest : List Char) :
    value? (fuel + 1) ('-' :: c :: rest) = unsigned? true (c :: rest) := by
  have finite : word? ['I', 'n', 'f', 'i', 'n', 'i', 't', 'y'] (c :: rest) = none := by
    rw [word?, if_neg (ne_of_isDigit digit rfl).symm]
  rw [value?, List.dropWhile_cons_of_neg (by decide)]
  simp [finite]

/-! ## Values -/

/-- A reader has a turn for the first character. -/
theorem ReadsAs.of_cons {c : Char} {more : List Char} {v : Value} (solid : isSpace c = false)
    (open_ : c ≠ ']') (read : ∀ fuel rest, more.length ≤ fuel → Apart rest →
      value? (fuel + 1) (c :: (more ++ rest)) = some (v, rest)) : ReadsAs (c :: more) v := by
  refine ⟨⟨c, more, rfl, solid, open_⟩, fun fuel rest enough apart => ?_⟩
  cases fuel with
  | zero => exact absurd enough (Nat.not_succ_le_zero _)
  | succ fuel => exact read fuel rest (Nat.le_of_succ_le_succ enough) apart

/-- An integer is read back, however large it is. -/
theorem readsAs_int (n : Int) : ReadsAs (Text.ofInt n).toList (.int n) := by
  obtain ⟨d, ds, digits⟩ : ∃ d ds, Nat.toDigits 10 n.natAbs = d :: ds :=
    List.exists_cons_of_ne_nil Nat.toDigits_ne_nil
  have digit : d.isDigit = true := isDigit_toDigits _ d (digits ▸ List.mem_cons_self)
  have number (negative : Bool) {rest : List Char} (apart : Apart rest) :
      unsigned? negative (d :: (ds ++ rest)) =
        some (.int (if negative then -(n.natAbs : Int) else n.natAbs), rest) := by
    rw [← unsigned?_toDigits negative n.natAbs apart, digits, List.cons_append]
  by_cases negative : n < 0
  · have text : (Text.ofInt n).toList = '-' :: d :: ds := by
      rw [Text.ofInt, if_pos negative, String.toList_append, Nat.toList_repr, digits]
      rfl
    rw [text]
    refine .of_cons (by decide) (by decide) fun fuel rest enough apart => ?_
    rw [List.cons_append, value?_minus digit, number true apart, if_pos rfl]
    congr 3
    omega
  · have text : (Text.ofInt n).toList = d :: ds := by
      rw [Text.ofInt, if_neg negative, Nat.toList_repr, digits]
    rw [text]
    refine .of_cons (not_isSpace_of_isDigit digit) (ne_of_isDigit digit rfl)
      fun fuel rest enough apart => ?_
    rw [value?_digit digit, number false apart, if_neg Bool.false_ne_true]
    congr 3
    omega

theorem readsAs_null : ReadsAs "null".toList .null :=
  .of_cons (by decide) (by decide) fun _ _ _ _ => rfl

theorem readsAs_bool (b : Bool) : ReadsAs (if b then "true" else "false").toList (.bool b) := by
  cases b
  · exact .of_cons (by decide) (by decide) fun _ _ _ _ => rfl
  · exact .of_cons (by decide) (by decide) fun _ _ _ _ => rfl

theorem readsAs_str (s : String) : ReadsAs (quote s).toList (.str s) := by
  rw [toList_quote]
  refine .of_cons (by decide) (by decide) fun fuel rest _ _ => ?_
  rw [value?, List.dropWhile_cons_of_neg (by decide), List.append_assoc, List.singleton_append]
  dsimp only
  rw [if_neg (by decide), if_neg (by decide), if_pos rfl, stringBody_quoted]
  rfl

/-! ## One entry after the other -/

theorem intercalate_comma (between first second : List Char) (more : List (List Char)) :
    (',' :: between).intercalate (first :: second :: more) =
      first ++ ',' :: (between ++ (',' :: between).intercalate (second :: more)) := by
  rw [List.intercalate_cons_cons, List.append_assoc, List.cons_append]

theorem intercalate_cons_append (gap text : List Char) (texts : List (List Char)) :
    ∃ more, gap.intercalate (text :: texts) = text ++ more := by
  cases texts with
  | nil => exact ⟨[], by rw [List.intercalate_singleton, List.append_nil]⟩
  | cons second texts => exact ⟨_, by rw [List.intercalate_cons_cons, List.append_assoc]⟩

theorem dropWhile_comma (rest : List Char) : (',' :: rest).dropWhile isSpace = ',' :: rest :=
  List.dropWhile_cons_of_neg (by decide)

/-- The last item of a list. -/
theorem items?_last {text : List Char} {v : Value} (reads : ReadsAs text v) {gap : List Char}
    (blank : Gap gap) {fuel : Nat} (enough : text.length ≤ fuel) (acc : List Value)
    (rest : List Char) :
    items? (fuel + 1) acc (text ++ (gap ++ ']' :: rest)) = some ((v :: acc).reverse, rest) := by
  have value := reads.read fuel (gap ++ ']' :: rest) enough
    (apart_gap blank (.inr (.inl rfl)) rest)
  rw [items?, value]
  simp only [dropWhile_gap blank (c := ']') (by decide)]

/-- An item before others. -/
theorem items?_more {text : List Char} {v : Value} (reads : ReadsAs text v) {gap : List Char}
    (blank : Gap gap) {fuel : Nat} (enough : text.length ≤ fuel) (acc : List Value)
    (rest : List Char) :
    items? (fuel + 1) acc (text ++ ',' :: (gap ++ rest)) = items? fuel (v :: acc) rest := by
  have value := reads.read fuel (',' :: (gap ++ rest)) enough (apart_cons (.inl rfl) _)
  rw [items?, value]
  simp only [dropWhile_comma, items?_gap blank]

/-- A reader that takes in one entry in one turn takes in all of them, with commas between. -/
theorem readAll {α β : Type} (reader : Nat → List β → List Char → Option (List β × List Char))
    (text : α → List Char) (value : α → β) {between ending rest : List Char} {entries : List α}
    (more : ∀ x ∈ entries, ∀ fuel acc others, (text x).length ≤ fuel →
      reader (fuel + 1) acc (text x ++ ',' :: (between ++ others)) =
        reader fuel (value x :: acc) others)
    (last : ∀ x ∈ entries, ∀ fuel acc, (text x).length ≤ fuel →
      reader (fuel + 1) acc (text x ++ ending) = some ((value x :: acc).reverse, rest)) :
    entries ≠ [] → ∀ fuel acc, ((',' :: between).intercalate (entries.map text)).length < fuel →
      reader fuel acc ((',' :: between).intercalate (entries.map text) ++ ending) =
        some (acc.reverse ++ entries.map value, rest) := by
  induction entries with
  | nil =>
      intro some_
      exact absurd rfl some_
  | cons x tail ih =>
      intro _ fuel acc enough
      obtain ⟨fuel, rfl⟩ := Nat.exists_eq_succ_of_ne_zero (Nat.ne_of_gt (Nat.zero_lt_of_lt enough))
      cases tail with
      | nil =>
          rw [List.map_singleton, List.intercalate_singleton] at enough ⊢
          rw [last x List.mem_cons_self fuel acc (Nat.le_of_lt_succ enough), List.reverse_cons,
            List.map_singleton]
      | cons y tail =>
          have others := ih (fun z hz => more z (List.mem_cons_of_mem _ hz))
            (fun z hz => last z (List.mem_cons_of_mem _ hz)) (List.cons_ne_nil _ _)
          rw [List.map_cons, List.map_cons, intercalate_comma, ← List.map_cons] at enough ⊢
          rw [List.length_append, List.length_cons, List.length_append] at enough
          rw [List.append_assoc, List.cons_append, List.append_assoc,
            more x List.mem_cons_self fuel acc _ (by omega), others fuel _ (by omega),
            List.reverse_cons, List.append_assoc, List.singleton_append]
          rfl

/-- Items that are read as values, one after the other, are read as a list. -/
theorem items?_read {between last : List Char} (blank : Gap between) (ends : Gap last)
    (rest : List Char) {items : List Value} (text : Value → List Char) (some_ : items ≠ [])
    (each : ∀ v ∈ items, ReadsAs (text v) v) {fuel : Nat}
    (enough : ((',' :: between).intercalate (items.map text)).length < fuel) :
    items? fuel [] ((',' :: between).intercalate (items.map text) ++ (last ++ ']' :: rest)) =
      some (items, rest) := by
  have read := readAll items? text id
    (fun v hv fuel acc others enough => items?_more (each v hv) blank enough acc others)
    (fun v hv fuel acc enough => items?_last (each v hv) ends enough acc rest) some_ fuel [] enough
  rw [read, List.map_id, List.reverse_nil, List.nil_append]

theorem fieldText_append (name : String) (value rest : List Char) :
    fieldText name value ++ rest = fieldText name (value ++ rest) := by
  rw [fieldText, List.append_assoc, List.cons_append, List.cons_append, fieldText]

theorem length_fieldText (name : String) (value : List Char) :
    (fieldText name value).length = (quote name).toList.length + (value.length + 2) := by
  rw [fieldText, List.length_append, List.length_cons, List.length_cons]

/-- What a reader of fields does behind a value. -/
def goOn (fuel : Nat) (acc : List (Value × Value)) (cs : List Char) :
    Option (List (Value × Value) × List Char) :=
  match cs.dropWhile isSpace with
  | ',' :: rest => fields? fuel acc rest
  | '\x7d' :: rest => some (acc.reverse, rest)
  | _ => none

/-- A reader of fields takes in a name, its colon and the value. -/
theorem fields?_name (name : String) (fuel : Nat) (acc : List (Value × Value))
    {cs : List Char} {v : Value} {rest : List Char} (read : value? fuel cs = some (v, rest)) :
    fields? (fuel + 1) acc (fieldText name cs) = goOn fuel ((.str name, v) :: acc) rest := by
  have blank : Gap [' '] := by
    intro c hc
    rw [List.mem_singleton.1 hc]
    decide
  have value : value? fuel (' ' :: cs) = some (v, rest) := (value?_gap blank fuel cs).trans read
  have text : fieldText name cs =
      '\"' :: (name.toList.flatMap escape ++ '\"' :: ':' :: ' ' :: cs) := by
    rw [fieldText, toList_quote, List.cons_append, List.append_assoc, List.singleton_append]
  have colon : (':' :: ' ' :: cs).dropWhile isSpace = ':' :: ' ' :: cs :=
    List.dropWhile_cons_of_neg (by decide)
  rw [text, fields?, List.dropWhile_cons_of_neg (by decide)]
  simp only [stringBody_quoted, colon, value]
  rfl

/-- The last field of a record. -/
theorem fields?_last {name : String} {text : List Char} {v : Value} (reads : ReadsAs text v)
    {gap : List Char} (blank : Gap gap) {fuel : Nat} (enough : text.length ≤ fuel)
    (acc : List (Value × Value)) (rest : List Char) :
    fields? (fuel + 1) acc (fieldText name text ++ (gap ++ '\x7d' :: rest)) =
      some (((.str name, v) :: acc).reverse, rest) := by
  have value := reads.read fuel (gap ++ '\x7d' :: rest) enough
    (apart_gap blank (.inr (.inr rfl)) rest)
  rw [fieldText_append, fields?_name name fuel acc value, goOn]
  simp only [dropWhile_gap blank (c := '\x7d') (by decide)]

/-- A field before others. -/
theorem fields?_more {name : String} {text : List Char} {v : Value} (reads : ReadsAs text v)
    {gap : List Char} (blank : Gap gap) {fuel : Nat} (enough : text.length ≤ fuel)
    (acc : List (Value × Value)) (rest : List Char) :
    fields? (fuel + 1) acc (fieldText name text ++ ',' :: (gap ++ rest)) =
      fields? fuel ((.str name, v) :: acc) rest := by
  have value := reads.read fuel (',' :: (gap ++ rest)) enough (apart_cons (.inl rfl) _)
  rw [fieldText_append, fields?_name name fuel acc value, goOn]
  simp only [dropWhile_comma, fields?_gap blank]

/-- Fields whose values are read, one after the other, are read as the fields of a record. -/
theorem fields?_read {between last : List Char} (blank : Gap between) (ends : Gap last)
    (rest : List Char) {fields : List (String × Value)} (text : Value → List Char)
    (some_ : fields ≠ []) (each : ∀ f ∈ fields, ReadsAs (text f.2) f.2) {fuel : Nat}
    (enough : ((',' :: between).intercalate
      (fields.map fun f => fieldText f.1 (text f.2))).length < fuel) :
    fields? fuel [] ((',' :: between).intercalate (fields.map fun f => fieldText f.1 (text f.2)) ++
        (last ++ '\x7d' :: rest)) =
      some (fields.map fun (k, v) => (.str k, v), rest) := by
  have le {name : String} {value : List Char} {fuel : Nat}
      (enough : (fieldText name value).length ≤ fuel) : value.length ≤ fuel := by
    rw [length_fieldText] at enough
    omega
  exact readAll fields? _ _
    (fun f hf fuel acc others enough =>
      fields?_more (each f hf) blank (le enough) acc others)
    (fun f hf fuel acc enough => fields?_last (each f hf) ends (le enough) acc rest)
    some_ fuel [] enough

/-! ## Lists and records -/

/-- A reader of a list passes over the gap behind the bracket. -/
theorem value?_items {first : List Char} (blank : Gap first) {c : Char} {more : List Char}
    (solid : isSpace c = false) (open_ : c ≠ ']') (fuel : Nat) :
    value? (fuel + 1) ('[' :: (first ++ c :: more)) =
      (items? fuel [] (c :: more)).map fun (vs, rest) => (.list vs, rest) := by
  rw [value?, List.dropWhile_cons_of_neg (by decide)]
  dsimp only
  rw [if_pos rfl, dropWhile_gap blank solid]
  split
  · next followed => exact absurd (List.cons.inj followed).1 open_
  · rfl

/-- A reader of a record passes over the gap behind the brace. -/
theorem value?_fields {first : List Char} (blank : Gap first) (more : List Char) (fuel : Nat) :
    value? (fuel + 1) ('\x7b' :: (first ++ '\"' :: more)) =
      (fields? fuel [] ('\"' :: more)).map fun (kvs, rest) => (.map kvs, rest) := by
  rw [value?, List.dropWhile_cons_of_neg (by decide)]
  dsimp only
  rw [if_neg (by decide), if_pos rfl, dropWhile_gap blank (by decide)]
  rfl

/-- Items between brackets are read as a list. -/
theorem value?_list {first between last : List Char} (opens : Gap first) (blank : Gap between)
    (ends : Gap last) (rest : List Char) {items : List Value} (text : Value → List Char)
    (some_ : items ≠ []) (each : ∀ v ∈ items, ReadsAs (text v) v) {fuel : Nat}
    (enough : ((',' :: between).intercalate (items.map text)).length < fuel) :
    value? (fuel + 1) ('[' :: (first ++ ((',' :: between).intercalate (items.map text) ++
      (last ++ ']' :: rest)))) = some (.list items, rest) := by
  have read := items?_read blank ends rest text some_ each enough
  obtain ⟨v, others, rfl⟩ := List.exists_cons_of_ne_nil some_
  obtain ⟨c, more, front, solid, open_⟩ := (each v List.mem_cons_self).head
  obtain ⟨tail, joined⟩ := intercalate_cons_append (',' :: between) (text v) (others.map text)
  rw [List.map_cons, joined, front, List.cons_append, List.cons_append] at read ⊢
  rw [value?_items opens solid open_, read, Option.map_some]

/-- Fields between braces are read as a record. -/
theorem value?_record {first between last : List Char} (opens : Gap first) (blank : Gap between)
    (ends : Gap last) (rest : List Char) {fields : List (String × Value)}
    (text : Value → List Char) (some_ : fields ≠ []) (each : ∀ f ∈ fields, ReadsAs (text f.2) f.2)
    {fuel : Nat} (enough : ((',' :: between).intercalate
      (fields.map fun f => fieldText f.1 (text f.2))).length < fuel) :
    value? (fuel + 1) ('\x7b' :: (first ++ ((',' :: between).intercalate
      (fields.map fun f => fieldText f.1 (text f.2)) ++ (last ++ '\x7d' :: rest)))) =
      some (.record fields, rest) := by
  have read := fields?_read blank ends rest text some_ each enough
  obtain ⟨f, others, rfl⟩ := List.exists_cons_of_ne_nil some_
  obtain ⟨tail, joined⟩ := intercalate_cons_append (',' :: between) (fieldText f.1 (text f.2))
    (others.map fun f => fieldText f.1 (text f.2))
  rw [List.map_cons, joined, fieldText, toList_quote] at read ⊢
  simp only [List.cons_append] at read ⊢
  rw [value?_fields opens, read, Option.map_some, Value.record]

/-- A list is read back if its items are. -/
theorem readsAs_list (layout : Layout) (level : Nat) {items : List Value} {text : Value → String}
    (each : ∀ v ∈ items, ReadsAs (text v).toList v) :
    ReadsAs (enclose layout level "[" "]" (items.map text)).toList (.list items) := by
  by_cases none_ : items = []
  · rw [none_, List.map_nil, enclose_nil]
    exact .of_cons (by decide) (by decide) fun _ _ _ _ => rfl
  obtain ⟨first, between, last, opens, blank, ends, whole⟩ :=
    toList_enclose layout level "[" "]" (items.map text) (by simpa using none_)
  have left : "[".toList = ['['] := rfl
  have right : "]".toList = [']'] := rfl
  rw [whole, left, right, List.map_map, List.singleton_append]
  refine .of_cons (by decide) (by decide) fun fuel rest enough _ => ?_
  simp only [List.length_append, List.length_singleton] at enough
  simp only [List.append_assoc, List.singleton_append]
  exact value?_list opens blank ends rest (String.toList ∘ text) none_ each (by omega)

/-- A record is read back if the values of its fields are. -/
theorem readsAs_record (layout : Layout) (level : Nat) {fields : List (String × Value)}
    (each : ∀ f ∈ fields, ReadsAs (renderAt layout (level + 1) f.2).toList f.2) :
    ReadsAs (renderAt layout level (.record fields)).toList (.record fields) := by
  rw [Value.record, renderAt]
  by_cases none_ : fields = []
  · rw [none_, List.map_nil, renderFields, enclose_nil]
    exact .of_cons (by decide) (by decide) fun _ _ _ _ => rfl
  have texts := renderFields_record layout (level + 1) fields
  obtain ⟨first, between, last, opens, blank, ends, whole⟩ :=
    toList_enclose layout level "\x7b" "\x7d" (renderFields layout (level + 1)
      (fields.map fun (k, v) => (.str k, v))) (by
        intro none
        rw [none, List.map_nil] at texts
        exact none_ (List.map_eq_nil_iff.1 texts.symm))
  have left : "\x7b".toList = ['\x7b'] := rfl
  have right : "\x7d".toList = ['\x7d'] := rfl
  rw [whole, left, right, texts, List.singleton_append]
  refine .of_cons (by decide) (by decide) fun fuel rest enough _ => ?_
  simp only [List.length_append, List.length_singleton] at enough
  simp only [List.append_assoc, List.singleton_append]
  exact value?_record opens blank ends rest (fun v => (renderAt layout (level + 1) v).toList)
    none_ each (by omega)

/-- The written form of a plain value is read back, in every layout and at every level. -/
theorem readsAs (layout : Layout) {v : Value} (plain : Plain v) :
    ∀ level, ReadsAs (renderAt layout level v).toList v := by
  induction plain with
  | null => exact fun _ => readsAs_null
  | bool b => exact fun _ => readsAs_bool b
  | int n => exact fun _ => readsAs_int n
  | str s => exact fun _ => readsAs_str s
  | list _ ih =>
      intro level
      rw [renderAt, renderItems_eq_map]
      exact readsAs_list layout level fun v hv => ih v hv (level + 1)
  | record _ ih => exact fun level => readsAs_record layout level fun f hf => ih f hf (level + 1)

/-- **Reading undoes writing**, for every plain value in every layout. -/
theorem parse_render (layout : Layout) {v : Value} (plain : Plain v) :
    parse (render layout v) = some v := by
  have read := (readsAs layout plain 0).read ((render layout v).toList.length + 1) []
    (Nat.le_succ _) apart_nil
  rw [List.append_nil, ← render] at read
  rw [parse, read]
  rfl

/-! ## ASCII -/

theorem ascii_gap {gap : List Char} (blank : Gap gap) : Ascii gap := by
  intro c hc
  have space := blank c hc
  simp only [isSpace, Bool.or_eq_true, decide_eq_true_eq] at space
  rcases space with ((rfl | rfl) | rfl) | rfl <;> decide

theorem ascii_toDigits (n : Nat) : Ascii (Nat.toDigits 10 n) :=
  fun c hc => Text.toNat_lt_of_isDigit (isDigit_toDigits n c hc)

theorem ascii_ofInt (n : Int) : Ascii (Text.ofInt n).toList := by
  rw [Text.ofInt]
  split
  · rw [String.toList_append, Nat.toList_repr]
    exact .append (by decide) (ascii_toDigits _)
  · rw [Nat.toList_repr]
    exact ascii_toDigits _

theorem ascii_intercalate {gap : List Char} (blank : Ascii gap) {texts : List (List Char)}
    (each : ∀ text ∈ texts, Ascii text) : Ascii (gap.intercalate texts) := by
  induction texts with
  | nil => exact List.forall_mem_nil _
  | cons text more ih =>
      have others := ih fun t ht => each t (List.mem_cons_of_mem _ ht)
      have first := each text List.mem_cons_self
      cases more with
      | nil =>
          rw [List.intercalate_singleton]
          exact first
      | cons second more =>
          rw [List.intercalate_cons_cons]
          exact (first.append blank).append others

theorem ascii_enclose (layout : Layout) (level : Nat) {left right : String} {items : List String}
    (leftAscii : Ascii left.toList) (rightAscii : Ascii right.toList)
    (each : ∀ text ∈ items.map String.toList, Ascii text) :
    Ascii (enclose layout level left right items).toList := by
  by_cases none_ : items = []
  · rw [none_, enclose_nil, String.toList_append]
    exact leftAscii.append rightAscii
  obtain ⟨first, between, last, opens, blank, ends, whole⟩ :=
    toList_enclose layout level left right items none_
  have comma : Ascii (',' :: between) := List.forall_mem_cons.2 ⟨by decide, ascii_gap blank⟩
  rw [whole]
  exact leftAscii.append ((ascii_gap opens).append
    ((ascii_intercalate comma each).append ((ascii_gap ends).append rightAscii)))

/-- A plain value is written in ASCII. -/
theorem ascii_renderAt (layout : Layout) {v : Value} (plain : Plain v) :
    ∀ level, Ascii (renderAt layout level v).toList := by
  induction plain with
  | null =>
      have text : Ascii "null".toList := by decide
      exact fun _ => text
  | bool b =>
      have text : Ascii (if b then "true" else "false").toList := by
        cases b <;> decide
      exact fun _ => text
  | int n => exact fun _ => ascii_ofInt n
  | str s => exact fun _ => ascii_quote s
  | @list items _ ih =>
      intro level
      rw [renderAt, renderItems_eq_map]
      refine ascii_enclose layout level (by decide) (by decide) fun text ht => ?_
      rw [List.map_map] at ht
      obtain ⟨v, hv, rfl⟩ := List.mem_map.1 ht
      exact ih v hv (level + 1)
  | @record fields _ ih =>
      intro level
      rw [Value.record, renderAt]
      refine ascii_enclose layout level (by decide) (by decide) fun text ht => ?_
      rw [renderFields_record] at ht
      obtain ⟨f, hf, rfl⟩ := List.mem_map.1 ht
      exact (ascii_quote f.1).append (List.forall_mem_cons.2
        ⟨by decide, List.forall_mem_cons.2 ⟨by decide, ih f hf (level + 1)⟩⟩)

end ModifierLint.Json
