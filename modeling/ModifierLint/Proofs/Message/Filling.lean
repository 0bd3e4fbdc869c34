/-
# Filling plain templates

A plain template is text with places for arguments, where braces of the text are doubled.  Its
places have numbers, or none of them has.  Filling such a template gives the text with the
arguments in the places, exactly as they are, unless an argument is missing
(`Template.format_source`).

A template is filled piece by piece, and a piece is literal text up to the next field.  So what is
proved first is that one character, one doubled brace or one place at the front of a template is one
step of the filling, whatever follows.  Literal text that is longer than a character belongs to the
piece behind it, hence `expand_char` needs no turn while `expand_doubled` and `expand_place` do.
-/
import Mathlib.Data.List.TakeWhile
import ModifierLint.Message.Template
import ModifierLint.Proofs.Text.Digits

namespace ModifierLint.Template

open Text (isDigit_toDigits)

/-! ## Numbers -/

theorem le_ofDigitChars (ds : List Char) (acc : Nat) : acc ≤ Nat.ofDigitChars 10 ds acc := by
  rw [Nat.ofDigitChars_eq_ofDigitChars_zero]
  exact Nat.le_trans (Nat.le_mul_of_pos_left acc (Nat.pow_pos (by decide))) (Nat.le_add_right _ _)

/-- Digits are read as the number that they write, unless it is too large. -/
theorem numberAtFront_digits {ds : List Char} : ∀ count acc : Nat,
    (∀ c ∈ ds, c.isDigit = true) → Nat.ofDigitChars 10 ds acc ≤ largestNumber →
    numberAtFront count acc ds = .ok (count + ds.length, Nat.ofDigitChars 10 ds acc, []) := by
  induction ds with
  | nil =>
      intro count acc _ _
      rfl
  | cons c ds ih =>
      intro count acc digits fits
      obtain ⟨digit, digits⟩ := List.forall_mem_cons.1 digits
      have next : Nat.ofDigitChars 10 (c :: ds) acc =
          Nat.ofDigitChars 10 ds (acc * 10 + (c.toNat - 48)) := by
        rw [Nat.ofDigitChars_cons, Nat.mul_comm]
        rfl
      rw [next] at fits ⊢
      have small : ¬acc > (largestNumber - (c.toNat - 48)) / 10 := by
        have := Nat.le_trans (le_ofDigitChars ds (acc * 10 + (c.toNat - 48))) fits
        omega
      simp only [numberAtFront, Text.digitValue?_of_isDigit digit, if_neg small]
      rw [ih _ _ digits fits, List.length_cons, Nat.add_assoc, Nat.add_comm 1]

theorem wholeNumber_toDigits {i : Nat} (fits : i ≤ largestNumber) :
    wholeNumber (Nat.toDigits 10 i) = .ok (some i) := by
  have read := numberAtFront_digits 0 0 (isDigit_toDigits i)
    (by rw [Nat.ofDigitChars_ten_toDigits]; exact fits)
  rw [Nat.ofDigitChars_ten_toDigits, Nat.zero_add] at read
  have some_ : 0 < (Nat.toDigits 10 i).length := Nat.length_toDigits_pos
  rw [wholeNumber, read]
  show Except.ok (if (true && decide _) = true then some i else none) = _
  rw [Bool.true_and, if_pos (decide_eq_true some_)]

/-! ## Fields -/

/-- The name of a field goes up to its end. -/
theorem fieldName_plain {ds : List Char} (digits : ∀ c ∈ ds, c.isDigit = true) (rest : List Char) :
    ∀ name, fieldName name false (ds ++ '\x7d' :: rest) =
      .ok (name.reverse ++ ds, '\x7d', rest) := by
  induction ds with
  | nil =>
      intro name
      rw [List.nil_append, fieldName, List.append_nil]
      rfl
  | cons c ds ih =>
      intro name
      obtain ⟨digit, digits⟩ := List.forall_mem_cons.1 digits
      have other {x : Char} (no : x.isDigit = false) : c ≠ x := Text.ne_of_isDigit digit no
      have name_ : ¬(decide (c = '\x7d') || decide (c = ':') || decide (c = '!')) = true := by
        simp [other (x := '\x7d') rfl, other (x := ':') rfl, other (x := '!') rfl]
      rw [List.cons_append, fieldName, if_neg (other (by rfl)), if_neg name_,
        decide_eq_false (other (x := '[') rfl), ih digits, List.reverse_cons, List.append_assoc,
        List.singleton_append]

theorem field_plain {ds : List Char} (digits : ∀ c ∈ ds, c.isDigit = true) (rest : List Char) :
    field (ds ++ '\x7d' :: rest) = .ok (⟨ds, none, [], false⟩, rest) := by
  rw [field, fieldName_plain digits]
  rfl

theorem fieldValue_plain (args : List String) (numbering : Numbering) {ds : List Char}
    (digits : ∀ c ∈ ds, c.isDigit = true) :
    fieldValue args numbering ds =
      (argument args numbering ds).map fun (arg, numbering) => (.text arg, numbering) := by
  have plain : ∀ c ∈ ds, (!opensItem c) = true := by
    intro c hc
    rw [opensItem, decide_eq_false (Text.ne_of_isDigit (digits c hc) rfl),
      decide_eq_false (Text.ne_of_isDigit (digits c hc) rfl)]
    rfl
  have name : ds.takeWhile (!opensItem ·) = ds := List.takeWhile_eq_self_iff.2 plain
  have items : ds.dropWhile (!opensItem ·) = [] := List.dropWhile_eq_nil_iff.2 plain
  rw [fieldValue, name, items]
  cases argument args numbering ds <;> rfl

/-! ## Pieces -/

/-- Text in front belongs to the literal text of the piece. -/
def Piece.prepend (literal : List Char) (piece : Piece) : Piece :=
  { piece with literal := literal ++ piece.literal }

theorem next_char {c : Char} (opens : c ≠ '\x7b') (closes : c ≠ '\x7d') (literal s : List Char) :
    next literal (c :: s) = next (c :: literal) s := by
  rw [next.eq_def]
  dsimp only
  rw [if_neg opens, if_neg closes]

theorem next_literal (s : List Char) : ∀ literal,
    next literal s = (next [] s).map (Piece.prepend literal.reverse) := by
  induction s with
  | nil =>
      intro literal
      show Except.ok _ = Except.ok _
      rw [Piece.prepend, List.reverse_nil, List.append_nil]
  | cons c s ih =>
      intro literal
      by_cases opens : c = '\x7b'
      · subst opens
        cases s with
        | nil => rfl
        | cons d more =>
            by_cases doubled : d = '\x7b'
            · simp [next, doubled, Except.map, Piece.prepend]
            · simp only [next, if_true, if_neg doubled]
              cases field (d :: more) <;> simp [Except.map, Piece.prepend]
      by_cases closes : c = '\x7d'
      · subst closes
        cases s with
        | nil => rfl
        | cons d more =>
            by_cases doubled : d = '\x7d'
            · simp [next, doubled, Except.map, Piece.prepend]
            · simp [next, doubled, Except.map]
      · rw [next_char opens closes, next_char opens closes, ih (c :: literal), ih [c]]
        cases next [] s <;> simp [Except.map, Piece.prepend]

/-! ## Steps of the filling -/

/-- A text in front of what comes of the rest. -/
def after (text : String) (rest : Except Fault (String × Numbering)) :
    Except Fault (String × Numbering) := do
  let (filled, numbering) ← rest
  return (text ++ filled, numbering)

theorem after_after (first second : String) (rest : Except Fault (String × Numbering)) :
    after first (after second rest) = after (first ++ second) rest := by
  simp only [after, bind_assoc, pure_bind, String.append_assoc]

theorem after_empty (rest : Except Fault (String × Numbering)) : after "" rest = rest := by
  cases rest <;> simp [after, pure, Except.pure, bind, Except.bind]

/-- The text that stands for a field. -/
def replacement (args : List String) (depth : Nat) (numbering : Numbering) (f : Field) :
    Except Fault (String × Numbering) := do
  let (value, numbering) ← fieldValue args numbering f.name
  let value ← convert value f.conversion
  let (spec, numbering) ←
    if f.nested then
      match depth with
      | 0 | 1 => .error .tooDeep
      | inner + 1 =>
        (expand args inner numbering (f.layout.length + 1) f.layout).map fun (s, n) =>
          (s.toList, n)
    else .ok (f.layout, numbering)
  return (← lay spec value, numbering)

/-- What comes of a piece and of the rest of its template. -/
def expandPiece (args : List String) (depth : Nat) (numbering : Numbering) (fuel : Nat)
    (piece : Piece) : Except Fault (String × Numbering) :=
  match piece.field with
  | none => after (String.ofList piece.literal) (expand args depth numbering fuel piece.rest)
  | some f => do
    let (value, numbering) ← replacement args depth numbering f
    after (String.ofList piece.literal ++ value) (expand args depth numbering fuel piece.rest)

section

variable (args : List String) (depth : Nat) (numbering : Numbering) (fuel : Nat)

theorem expand_nil : expand args depth numbering fuel [] = .ok ("", numbering) := by
  cases fuel <;> rw [expand]
  rfl

/-- A template is filled piece by piece. -/
theorem expand_cons (c : Char) (s : List Char) :
    expand args depth numbering (fuel + 1) (c :: s) =
      (next [] (c :: s)).bind (expandPiece args depth numbering fuel) := by
  rw [expand, if_neg (by simp)]
  show (next [] (c :: s) >>= _) = (next [] (c :: s) >>= _)
  congr 1
  funext piece
  obtain ⟨literal, field?, rest⟩ := piece
  cases field? with
  | none => rfl
  | some f =>
      obtain ⟨name, conversion, layout, nested⟩ := f
      simp only [expandPiece, replacement, after, bind_assoc]
      -- whether the layout is filled is decided by `nested` and `depth`
      cases nested with
      | false => simp only [Bool.false_eq_true, if_false, bind_assoc, pure_bind]
      | true =>
          cases depth with
          | zero => rfl
          | succ inner =>
              cases inner with
              | zero => rfl
              | succ inner => simp only [if_true, bind_assoc, pure_bind]

theorem expandPiece_prepend (text : List Char) (piece : Piece) :
    expandPiece args depth numbering fuel (piece.prepend text) =
      after (String.ofList text) (expandPiece args depth numbering fuel piece) := by
  obtain ⟨literal, field?, rest⟩ := piece
  cases field? with
  | none =>
      simp only [expandPiece, Piece.prepend, after_after, String.ofList_append]
  | some f =>
      simp only [expandPiece, Piece.prepend, after, bind_assoc, pure_bind, String.ofList_append,
        String.append_assoc]

/-- A character that is no brace stands for itself. -/
theorem expand_char {c : Char} (opens : c ≠ '\x7b') (closes : c ≠ '\x7d') (s : List Char) :
    expand args depth numbering (fuel + 1) (c :: s) =
      after c.toString (expand args depth numbering (fuel + 1) s) := by
  rw [expand_cons, next_char opens closes, next_literal]
  cases s with
  | nil =>
      rw [expand_nil]
      show after _ (expand _ _ _ _ []) = _
      rw [expand_nil]
      rfl
  | cons d s =>
      rw [expand_cons]
      cases next [] (d :: s) with
      | error => rfl
      | ok piece =>
          exact expandPiece_prepend args depth numbering fuel [c] piece

/-- A doubled brace stands for the brace. -/
theorem expand_doubled {c : Char} (brace : c = '\x7b' ∨ c = '\x7d') (s : List Char) :
    expand args depth numbering (fuel + 1) (c :: c :: s) =
      after c.toString (expand args depth numbering fuel s) := by
  rw [expand_cons]
  rcases brace with rfl | rfl
  · rfl
  · rfl

/-- A place stands for its argument. -/
theorem expand_place {ds : List Char} (digits : ∀ c ∈ ds, c.isDigit = true) (s : List Char) :
    expand args depth numbering (fuel + 1) ('\x7b' :: (ds ++ '\x7d' :: s)) =
      (argument args numbering ds).bind fun (arg, numbering) =>
        after arg (expand args depth numbering fuel s) := by
  have single : ∀ d more, ds ++ '\x7d' :: s = d :: more → d ≠ '\x7b' := by
    intro d more text
    cases ds with
    | nil =>
        rw [← (List.cons.inj text).1]
        decide
    | cons c ds =>
        rw [← (List.cons.inj text).1]
        exact Text.ne_of_isDigit (digits c List.mem_cons_self) rfl
  have read : next [] ('\x7b' :: (ds ++ '\x7d' :: s)) =
      .ok ⟨[], some ⟨ds, none, [], false⟩, s⟩ := by
    obtain ⟨d, more, text⟩ := List.exists_cons_of_ne_nil (l := ds ++ '\x7d' :: s) (by simp)
    rw [text, next.eq_def]
    dsimp only
    rw [if_pos rfl, if_neg (single d more text), ← text, field_plain digits]
    rfl
  rw [expand_cons, read]
  simp only [Except.bind, expandPiece, replacement, fieldValue_plain args numbering digits]
  cases argument args numbering ds with
  | error => rfl
  | ok arg =>
      show after _ _ = after _ _
      rw [String.ofList_nil, String.empty_append]
      rfl

end

/-! ## Plain templates -/

/-- A part of a plain template: text, or the place of an argument, with its number or without. -/
inductive Part
  | text (s : String)
  | numbered (i : Nat)
  | automatic
  deriving Repr, DecidableEq

/-- A character of a text as it stands in a template. -/
def doubled (c : Char) : List Char :=
  if c = '\x7b' ∨ c = '\x7d' then [c, c] else [c]

/-- A part as it stands in a template. -/
def Part.source : Part → List Char
  | text s => s.toList.flatMap doubled
  | numbered i => '\x7b' :: (Nat.toDigits 10 i ++ ['\x7d'])
  | automatic => ['\x7b', '\x7d']

/-- The template that is made of the parts. -/
def source (parts : List Part) : String :=
  String.ofList (parts.flatMap Part.source)

/-- The arguments that the places take.  A place without a number takes the next argument. -/
def references (next : Nat) : List Part → List Nat
  | [] => []
  | .text _ :: rest => references next rest
  | .numbered i :: rest => i :: references next rest
  | .automatic :: rest => next :: references (next + 1) rest

/-- The parts with the arguments in their places. -/
def filled (args : List String) (next : Nat) : List Part → String
  | [] => ""
  | .text s :: rest => s ++ filled args next rest
  | .numbered i :: rest => args.getD i "" ++ filled args next rest
  | .automatic :: rest => args.getD next "" ++ filled args (next + 1) rest

/-- The part is no place without a number, and its number can be read. -/
def Part.Numbered : Part → Prop
  | text _ => True
  | numbered i => i ≤ largestNumber
  | automatic => False

/-- The part is no place with a number. -/
def Part.Unnumbered : Part → Prop
  | numbered _ => False
  | _ => True

/-- All places have numbers, or none has a number. -/
def Uniform (parts : List Part) : Prop :=
  (∀ p ∈ parts, p.Numbered) ∨ ∀ p ∈ parts, p.Unnumbered

/-- The places can be taken one after the other. -/
inductive Takes : Numbering → Nat → List Part → Prop
  | nil (numbering : Numbering) (next : Nat) : Takes numbering next []
  | text {numbering : Numbering} {next : Nat} {rest : List Part} (s : String) :
      Takes numbering next rest → Takes numbering next (.text s :: rest)
  | numbered {numbering : Numbering} {next i : Nat} {rest : List Part} :
      numbering.takeNumber = .ok .manual → i ≤ largestNumber → Takes .manual next rest →
      Takes numbering next (.numbered i :: rest)
  | automatic {numbering : Numbering} {next : Nat} {rest : List Part} :
      numbering.takeNext = .ok (next, .automatic (next + 1)) →
      Takes (.automatic (next + 1)) (next + 1) rest → Takes numbering next (.automatic :: rest)

theorem takes_numbered {numbering : Numbering} (taken : numbering.takeNumber = .ok .manual)
    (next : Nat) {parts : List Part} (numbered : ∀ p ∈ parts, p.Numbered) :
    Takes numbering next parts := by
  induction parts generalizing numbering with
  | nil => exact .nil _ _
  | cons p rest ih =>
      obtain ⟨first, others⟩ := List.forall_mem_cons.1 numbered
      cases p with
      | text s => exact .text s (ih taken others)
      | numbered i => exact .numbered taken first (ih rfl others)
      | automatic => exact first.elim

theorem takes_automatic {numbering : Numbering} {next : Nat}
    (taken : numbering.takeNext = .ok (next, .automatic (next + 1))) {parts : List Part}
    (unnumbered : ∀ p ∈ parts, p.Unnumbered) : Takes numbering next parts := by
  induction parts generalizing numbering next with
  | nil => exact .nil _ _
  | cons p rest ih =>
      obtain ⟨first, others⟩ := List.forall_mem_cons.1 unnumbered
      cases p with
      | text s => exact .text s (ih taken others)
      | numbered i => exact first.elim
      | automatic => exact .automatic taken (ih rfl others)

theorem Uniform.takes {parts : List Part} (uniform : Uniform parts) :
    Takes .undecided 0 parts := by
  rcases uniform with numbered | unnumbered
  · exact takes_numbered rfl 0 numbered
  · exact takes_automatic rfl unnumbered

/-- What comes of taking arguments by number and of the text that is made with them: the first one
that is missing is reported. -/
def taking (args : List String) (indices : List Nat) (text : String) : Except Fault String :=
  match indices.find? (args.length ≤ ·) with
  | none => .ok text
  | some i => .error (.noArgument i)

theorem taking_append (args : List String) (indices : List Nat) (first text : String) :
    taking args indices (first ++ text) = (taking args indices text).map (first ++ ·) := by
  rw [taking, taking]
  cases indices.find? (args.length ≤ ·) <;> rfl

theorem taking_cons (args : List String) (i : Nat) (indices : List Nat) (text : String) :
    taking args (i :: indices) (args.getD i "" ++ text) =
      match args[i]? with
      | some arg => (taking args indices text).map (arg ++ ·)
      | none => .error (.noArgument i) := by
  cases found : args[i]? with
  | none =>
      have missing : args.length ≤ i := List.getElem?_eq_none_iff.1 found
      rw [taking, List.find?_cons_of_pos (by simpa using missing)]
  | some arg =>
      have there : i < args.length := (List.getElem?_eq_some_iff.1 found).1
      show _ = (taking args indices text).map (arg ++ ·)
      rw [← taking_append, taking, taking, List.find?_cons_of_neg (by simpa using there),
        List.getD_eq_getElem?_getD, found, Option.getD_some]

section

variable (args : List String) (depth : Nat)

theorem map_after (text : String) (rest : Except Fault (String × Numbering)) :
    (after text rest).map Prod.fst = (rest.map Prod.fst).map (text ++ ·) := by
  cases rest <;> rfl

/-- The argument with a number, taken by a place that leaves the numbering as given. -/
def argumentAt (i : Nat) (numbering : Numbering) : Except Fault (String × Numbering) :=
  match args[i]? with
  | some arg => .ok (arg, numbering)
  | none => .error (.noArgument i)

theorem argument_numbered {numbering : Numbering} {i : Nat}
    (taken : numbering.takeNumber = .ok .manual) (small : i ≤ largestNumber) :
    argument args numbering (Nat.toDigits 10 i) = argumentAt args i .manual := by
  rw [argument, List.isEmpty_eq_false_iff.2 Nat.toDigits_ne_nil, wholeNumber_toDigits small]
  show (numbering.takeNumber.map (i, ·) >>= _) = _
  rw [taken]
  rfl

theorem argument_automatic {numbering : Numbering} {next : Nat}
    (taken : numbering.takeNext = .ok (next, .automatic (next + 1))) :
    argument args numbering [] = argumentAt args next (.automatic (next + 1)) := by
  rw [argument, List.isEmpty_nil, if_pos rfl, taken]
  rfl

/-- A place is filled with the argument that it takes, if there is one. -/
theorem expand_taken {numbering numbering' : Numbering} {ds : List Char} {i : Nat}
    (digits : ∀ c ∈ ds, c.isDigit = true)
    (takes : argument args numbering ds = argumentAt args i numbering') {s : List Char}
    {indices : List Nat} {text : String} {fuel : Nat}
    (rest : (expand args depth numbering' fuel s).map Prod.fst = taking args indices text) :
    (expand args depth numbering (fuel + 1) ('\x7b' :: (ds ++ '\x7d' :: s))).map Prod.fst =
      taking args (i :: indices) (args.getD i "" ++ text) := by
  rw [expand_place args depth numbering fuel digits, takes, taking_cons, ← rest, argumentAt]
  cases args[i]? with
  | none => rfl
  | some arg => exact map_after arg _

/-- A text is filled with itself.  How many turns are left depends on how many of its characters are
doubled. -/
theorem expand_text (numbering : Numbering) (rest s : List Char) : ∀ fuel,
    (s.flatMap doubled ++ rest).length < fuel → ∃ left, rest.length < left ∧
      expand args depth numbering fuel (s.flatMap doubled ++ rest) =
        after (String.ofList s) (expand args depth numbering left rest) := by
  induction s with
  | nil =>
      intro fuel enough
      exact ⟨fuel, enough, (after_empty _).symm⟩
  | cons c s ih =>
      intro fuel enough
      obtain ⟨fuel, rfl⟩ := Nat.exists_eq_succ_of_ne_zero (Nat.ne_of_gt (Nat.zero_lt_of_lt enough))
      rw [List.flatMap_cons, List.append_assoc] at enough ⊢
      have whole : String.ofList (c :: s) = c.toString ++ String.ofList s := String.ofList_cons
      rw [whole]
      by_cases brace : c = '\x7b' ∨ c = '\x7d'
      · rw [doubled, if_pos brace] at enough ⊢
        obtain ⟨left, more, filled⟩ := ih fuel (by simp at enough ⊢; omega)
        refine ⟨left, more, ?_⟩
        rw [← after_after, ← filled]
        exact expand_doubled args depth numbering fuel brace _
      · rw [doubled, if_neg brace] at enough ⊢
        obtain ⟨left, more, filled⟩ := ih (fuel + 1) (by simp at enough ⊢; omega)
        refine ⟨left, more, ?_⟩
        rw [← after_after, ← filled]
        exact expand_char args depth numbering fuel (fun h => brace (.inl h))
          (fun h => brace (.inr h)) _

/-- What comes of parts whose places can be taken. -/
theorem expand_parts {numbering : Numbering} {next : Nat} {parts : List Part}
    (takes : Takes numbering next parts) : ∀ fuel, (parts.flatMap Part.source).length < fuel →
    (expand args depth numbering fuel (parts.flatMap Part.source)).map Prod.fst =
      taking args (references next parts) (filled args next parts) := by
  induction takes with
  | nil numbering next =>
      intro fuel _
      rw [List.flatMap_nil, expand_nil]
      rfl
  | text s _ ih =>
      intro fuel enough
      rw [List.flatMap_cons, Part.source] at enough ⊢
      obtain ⟨left, more, expanded⟩ := expand_text args depth _ _ _ fuel enough
      rw [expanded, map_after, ih left more, String.ofList_toList, references, filled,
        taking_append]
  | @numbered numbering next i rest taken small _ ih =>
      intro fuel enough
      obtain ⟨fuel, rfl⟩ := Nat.exists_eq_succ_of_ne_zero (Nat.ne_of_gt (Nat.zero_lt_of_lt enough))
      have source : (Part.numbered i :: rest).flatMap Part.source =
          '\x7b' :: (Nat.toDigits 10 i ++ '\x7d' :: rest.flatMap Part.source) := by
        rw [List.flatMap_cons, Part.source, List.cons_append, List.append_assoc,
          List.singleton_append]
      rw [source] at enough ⊢
      rw [List.length_cons, List.length_append, List.length_cons] at enough
      exact expand_taken args depth (isDigit_toDigits i) (argument_numbered args taken small)
        (ih fuel (by omega))
  | @automatic numbering next rest taken _ ih =>
      intro fuel enough
      obtain ⟨fuel, rfl⟩ := Nat.exists_eq_succ_of_ne_zero (Nat.ne_of_gt (Nat.zero_lt_of_lt enough))
      rw [List.flatMap_cons, List.length_append] at enough
      exact expand_taken args depth (List.forall_mem_nil _) (argument_automatic args taken)
        (ih fuel (by simp [Part.source] at enough ⊢; omega))

end

/-- **Filling a plain template** puts the arguments into the places, or reports the first place
whose argument is missing. -/
theorem format_source {parts : List Part} (uniform : Uniform parts) (args : List String) :
    format (source parts) args = taking args (references 0 parts) (filled args 0 parts) := by
  rw [format, source, String.toList_ofList]
  exact expand_parts args 2 uniform.takes _ (Nat.lt_succ_self _)

theorem taking_of_lt {args : List String} {indices : List Nat}
    (there : ∀ i ∈ indices, i < args.length) (text : String) :
    taking args indices text = .ok text := by
  have found : indices.find? (args.length ≤ ·) = none :=
    List.find?_eq_none.2 fun i hi => by simpa using there i hi
  rw [taking, found]

end ModifierLint.Template
