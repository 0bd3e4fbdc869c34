/-
# UTF-8

The decoder is an automaton that walks over the octets.  Its state is what the character under way
still needs: how many continuation octets, and in which range the next one must lie (overlong forms
and surrogates are excluded by the range of the second octet).  An octet that does not fit ends the
invalid part and is read afresh.

* `decodeLossy` writes one U+FFFD per maximal invalid part.
* `characterCount` and `firstCharacters` count what `decodeLossy` writes and take the first of it.
* `decode` refuses the first invalid part and says where it is and what is wrong with it.
* `decodeMarked` is `decode` behind a mark of order.
* `decodeChunks` decodes a file that is read in pieces; positions in its errors count from the
  piece, or from the unfinished character that the piece before left over.
-/
import ModifierLint.Text.Decimal

namespace ModifierLint.Text.Utf8

/-- A character under way: the value so far, the continuation octets that are missing, and the
range that the next of them must lie in. -/
structure Pending where
  value : Nat
  missing : Nat
  low : Nat
  high : Nat
  deriving Repr, DecidableEq

/-- What an octet at the start of a character means. -/
inductive Lead
  | single (c : Char)
  | opens (pending : Pending)
  | invalid

/-- The table of well-formed octet sequences, by first octet. -/
@[inline] def lead (octet : UInt8) : Lead :=
  let b := octet.toNat
  if b < 0x80 then .single (Char.ofNat b)
  else if b < 0xC2 then .invalid
  else if b < 0xE0 then .opens ⟨b - 0xC0, 1, 0x80, 0xBF⟩
  else if b < 0xF0 then
    .opens ⟨b - 0xE0, 2, if b = 0xE0 then 0xA0 else 0x80, if b = 0xED then 0x9F else 0xBF⟩
  else if b < 0xF5 then
    .opens ⟨b - 0xF0, 3, if b = 0xF0 then 0x90 else 0x80, if b = 0xF4 then 0x8F else 0xBF⟩
  else .invalid

/-- Whether the octet continues the character. -/
def Pending.admits (p : Pending) (octet : UInt8) : Bool :=
  p.low ≤ octet.toNat && octet.toNat ≤ p.high

/-- The character under way after one more octet. -/
def Pending.advance (p : Pending) (octet : UInt8) : Pending :=
  ⟨p.value * 64 + (octet.toNat - 0x80), p.missing - 1, 0x80, 0xBF⟩

/-- The replacement character. -/
def replacement : Char := Char.ofNat 0xFFFD

/-- What the octets decode to after a character under way, if there is one. -/
def decodeFrom : Option Pending → List UInt8 → List Char
  | none, [] => []
  | some _, [] => [replacement]
  | none, octet :: rest =>
    match lead octet with
    | .single c => c :: decodeFrom none rest
    | .opens p => decodeFrom (some p) rest
    | .invalid => replacement :: decodeFrom none rest
  | some p, octet :: rest =>
    if p.admits octet then
      if p.missing = 1 then Char.ofNat (p.advance octet).value :: decodeFrom none rest
      else decodeFrom (some (p.advance octet)) rest
    else
      match lead octet with
      | .single c => replacement :: c :: decodeFrom none rest
      | .opens q => replacement :: decodeFrom (some q) rest
      | .invalid => replacement :: replacement :: decodeFrom none rest

/-- The text with one replacement character per maximal invalid part. -/
def decodeLossy (octets : List UInt8) : List Char :=
  decodeFrom none octets

/-! ## Counting characters

Long files have many places whose columns are counted, so the characters before these are counted
without writing them. -/

/-- The number of characters that the octets from the index `i` on decode to, added to a count. -/
def countFrom (octets : ByteArray) (pending : Option Pending) (i count : Nat) : Nat :=
  if _h : i < octets.size then
    match pending with
    | none =>
      match lead octets[i] with
      | .single _ => countFrom octets none (i + 1) (count + 1)
      | .opens p => countFrom octets (some p) (i + 1) count
      | .invalid => countFrom octets none (i + 1) (count + 1)
    | some p =>
      if p.admits octets[i] then
        if p.missing = 1 then countFrom octets none (i + 1) (count + 1)
        else countFrom octets (some (p.advance octets[i])) (i + 1) count
      else
        match lead octets[i] with
        | .single _ => countFrom octets none (i + 1) (count + 2)
        | .opens q => countFrom octets (some q) (i + 1) (count + 1)
        | .invalid => countFrom octets none (i + 1) (count + 2)
  else if pending.isSome then count + 1 else count
termination_by octets.size - i

/-- The number of characters that octets decode to. -/
def characterCount (octets : ByteArray) : Nat :=
  countFrom octets none 0 0

/-- The first of the characters that octets decode to. -/
def firstCharacters (count : Nat) (octets : ByteArray) : List Char :=
  (decodeLossy (octets.extract 0 (4 * count)).data.toList).take count

theorem drop_eq_cons (octets : ByteArray) (i : Nat) (h : i < octets.size) :
    octets.data.toList.drop i = octets[i] :: octets.data.toList.drop (i + 1) :=
  List.drop_eq_getElem_cons (i := i) (l := octets.data.toList) h

theorem countFrom_eq (octets : ByteArray) (pending : Option Pending) (i count : Nat) :
    countFrom octets pending i count =
      count + (decodeFrom pending (octets.data.toList.drop i)).length := by
  fun_induction countFrom octets pending i count with
  | case9 pending i count h hp | case10 pending i count h hp =>
    have h : octets.data.toList.drop i = [] :=
      List.drop_eq_nil_of_le (Nat.le_of_not_lt h : octets.data.toList.length ≤ i)
    rw [h]
    cases pending <;> simp_all [decodeFrom]
  | _ =>
    rw [drop_eq_cons octets _ ‹_›]
    simp_all [decodeFrom] <;> omega

/-- The count is that of the decoded characters. -/
theorem characterCount_eq (octets : ByteArray) :
    characterCount octets = (decodeLossy octets.data.toList).length := by
  simp [characterCount, countFrom_eq, decodeLossy]

/-- A character needs one to three octets after its first. -/
theorem missing_of_lead {b : UInt8} {p : Pending} (h : lead b = .opens p) :
    1 ≤ p.missing ∧ p.missing ≤ 3 := by
  unfold lead at h
  grind

/-- How many octets are enough for a number of characters. -/
def enough : Nat → Option Pending → Nat
  | 0, _ => 0
  | n + 1, none => 4 * (n + 1)
  | n + 1, some p => 4 * n + p.missing

theorem take_decodeFrom_take (octets : List UInt8) (n k : Nat) (p : Option Pending)
    (hp : ∀ q, p = some q → 1 ≤ q.missing ∧ q.missing ≤ 3) (hk : enough n p ≤ k) :
    (decodeFrom p (octets.take k)).take n = (decodeFrom p octets).take n := by
  induction octets generalizing n k p with
  | nil => simp
  | cons b rest ih =>
    cases n with
    | zero => simp
    | succ n =>
      cases k with
      | zero => cases p <;> grind [enough]
      | succ k =>
        rw [List.take_succ_cons]
        have started (m : Nat) (h : 4 * m + 3 ≤ k) :
            (decodeFrom none (b :: rest.take k)).take (m + 1) =
              (decodeFrom none (b :: rest)).take (m + 1) := by
          have after := ih m k none (by simp) (by cases m <;> simp only [enough] <;> omega)
          cases hb : lead b with
          | single c => simpa [decodeFrom, hb] using after
          | invalid => simpa [decodeFrom, hb] using after
          | opens q =>
            have hq := missing_of_lead hb
            simpa [decodeFrom, hb] using
              ih (m + 1) k (some q) (by simp [hq]) (by simp only [enough]; omega)
        cases p with
        | none => exact started n (by simp only [enough] at hk; omega)
        | some p =>
          have hp := hp p rfl
          simp only [enough] at hk
          by_cases ha : p.admits b
          · by_cases hm : p.missing = 1
            · have after := ih n k none (by simp) (by cases n <;> simp only [enough] <;> omega)
              simpa [decodeFrom, ha, hm] using after
            · simp only [decodeFrom, ha, hm, if_true, if_false]
              have left : (p.advance b).missing = p.missing - 1 := rfl
              exact ih (n + 1) k (some (p.advance b))
                (fun q hq => by obtain rfl := Option.some.inj hq; omega)
                (by simp only [enough]; omega)
          · cases n with
            | zero => cases hb : lead b <;> simp [decodeFrom, ha, hb]
            | succ m =>
              have again (os : List UInt8) : decodeFrom (some p) (b :: os) =
                  replacement :: decodeFrom none (b :: os) := by
                cases hb : lead b <;> simp [decodeFrom, ha, hb]
              rw [again, again, List.take_succ_cons, List.take_succ_cons, started m (by omega)]

/-- The characters are the first of all that the octets decode to. -/
theorem firstCharacters_eq (count : Nat) (octets : ByteArray) :
    firstCharacters count octets = (decodeLossy octets.data.toList).take count := by
  have h := take_decodeFrom_take octets.data.toList count (4 * count) none (by simp)
    (by cases count <;> simp [enough])
  simpa [firstCharacters, decodeLossy, ByteArray.data_extract, List.extract_eq_take_drop] using h

/-! ## Errors -/

/-- What is wrong with an invalid part. -/
inductive Fault
  | startByte
  | continuationByte
  | endOfData
  deriving Repr, DecidableEq

/-- An invalid part: its first octet, its position and length, and what is wrong with it. -/
structure Invalid where
  octet : UInt8
  start : Nat
  length : Nat
  fault : Fault
  deriving Repr, DecidableEq

/-- The text of a fault. -/
def Fault.message : Fault → String
  | .startByte => "invalid start byte"
  | .continuationByte => "invalid continuation byte"
  | .endOfData => "unexpected end of data"

/-- The text of a decoding error. -/
def Invalid.message (e : Invalid) : String :=
  let place :=
    if e.length = 1 then
      "byte 0x" ++ hexOctet e.octet ++ " in position " ++ Nat.repr e.start
    else
      "bytes in position " ++ Nat.repr e.start ++ "-" ++ Nat.repr (e.start + e.length - 1)
  "'utf-8' codec can't decode " ++ place ++ ": " ++ e.fault.message
where
  hexOctet (b : UInt8) : String :=
    let digit (n : Nat) : Char := if n < 10 then Char.ofNat (48 + n) else Char.ofNat (87 + n)
    String.ofList [digit (b.toNat / 16), digit (b.toNat % 16)]

/-- The characters of a piece and the octets of a character that it leaves unfinished. -/
structure Decoded where
  characters : List Char
  unfinished : List UInt8

/-- Strict decoding.  `under` is the character under way with its octets so far, latest first, and
`position` is the index of the next octet. -/
def decodeStrictFrom (characters : List Char) (position : Nat) :
    Option (Pending × List UInt8) → List UInt8 → Except Invalid Decoded
  | none, [] => .ok ⟨characters.reverse, []⟩
  | some (_, under), [] => .ok ⟨characters.reverse, under.reverse⟩
  | none, octet :: rest =>
    match lead octet with
    | .single c => decodeStrictFrom (c :: characters) (position + 1) none rest
    | .opens p => decodeStrictFrom characters (position + 1) (some (p, [octet])) rest
    | .invalid => .error ⟨octet, position, 1, .startByte⟩
  | some (p, under), octet :: rest =>
    if p.admits octet then
      if p.missing = 1 then
        decodeStrictFrom (Char.ofNat (p.advance octet).value :: characters) (position + 1) none rest
      else
        decodeStrictFrom characters (position + 1) (some (p.advance octet, octet :: under)) rest
    else
      .error ⟨under.getLastD octet, position - under.length, under.length, .continuationByte⟩

/-- A last piece may leave nothing unfinished. -/
def Decoded.complete (length : Nat) (d : Decoded) : Except Invalid (List Char) :=
  match d.unfinished with
  | [] => .ok d.characters
  | octet :: _ => .error ⟨octet, length - d.unfinished.length, d.unfinished.length, .endOfData⟩

/-- The text of well-formed octets, or their first invalid part. -/
def decode (octets : List UInt8) : Except Invalid (List Char) :=
  (decodeStrictFrom [] 0 none octets).bind (·.complete octets.length)

/-- The mark of order in front of a text, U+FEFF. -/
def orderMark : List UInt8 := [0xEF, 0xBB, 0xBF]

/-- The text of well-formed octets behind a mark of order, if there is one; positions in errors
count from there.  The beginning of a mark alone is no text. -/
def decodeMarked (octets : List UInt8) : Except Invalid (List Char) :=
  if octets.isPrefixOf orderMark then .ok []
  else decode (if orderMark.isPrefixOf octets then octets.drop orderMark.length else octets)

/-- What the pieces decode to up to the first that is invalid, and what is wrong with it.  A piece
has `size` octets and comes after what the one before left unfinished. -/
def decodePieces (size : Nat) : Nat → List UInt8 → List UInt8 → List Char × Option Invalid
  | 0, carried, _ => last carried
  | fuel + 1, carried, octets =>
    if octets.isEmpty then last carried
    else
      match decodeStrictFrom [] 0 none (carried ++ octets.take size) with
      | .error e => ([], some e)
      | .ok d =>
        let (cs, e) := decodePieces size fuel d.unfinished (octets.drop size)
        (d.characters ++ cs, e)
where
  /-- The end of a file may not leave anything unfinished. -/
  last (carried : List UInt8) : List Char × Option Invalid :=
    match decode carried with
    | .ok cs => (cs, none)
    | .error e => ([], some e)

/-- The text of a file that is read in pieces of `size` octets, up to the first invalid piece. -/
def decodeChunks (size : Nat) (octets : List UInt8) : List Char × Option Invalid :=
  decodePieces size (octets.length + 1) [] octets

/-- A line break is a line feed: carriage return, alone or before a line feed, becomes one. -/
def universalNewlines : List Char → List Char
  | [] => []
  | '\r' :: '\n' :: rest => '\n' :: universalNewlines rest
  | '\r' :: rest => '\n' :: universalNewlines rest
  | c :: rest => c :: universalNewlines rest

end ModifierLint.Text.Utf8
