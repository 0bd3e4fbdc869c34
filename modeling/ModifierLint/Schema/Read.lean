/-
# Reading typed values

Readers accept what can stand for a value of their type: texts and whole numbers for integers,
words and the numbers zero and one for truth values.  The strict reader of truth values accepts
nothing else.  Records list their fields; what else stands in the document is refused or ignored.
-/
import ModifierLint.Schema.Checked
import ModifierLint.Text.Utf8

namespace ModifierLint.Schema

open Checked (complain)

/-! ## Scalars -/

/-- The text of a value that is text, or octets in UTF-8. -/
def text? : Value → Option (Except Complaint String)
  | .str s => some (.ok s)
  | .bytes octets =>
    match Text.Utf8.decode octets with
    | .ok cs => some (.ok (String.ofList cs))
    | .error _ => some (.error .stringEncoding)
  | _ => none

/-- A text. -/
def string (v : Value) : Checked String :=
  match text? v with
  | some (.ok s) => pure s
  | some (.error complaint) => complain complaint
  | none => complain .stringType

/-- The greatest number of octets of a text that is read as an integer. -/
def mostOctets : Nat := 4300

/-- An integer in ASCII digits with an optional sign. -/
def plainInteger? (cs : List Char) : Option Int :=
  if cs.all fun c => c.isDigit || c = '-' || c = '+' then Text.signed? 10 cs else none

/-- Whether a number goes on with the character behind its leading zeros. -/
def isLeading (c : Char) : Bool :=
  c = '-' || ('1' ≤ c && c ≤ '9')

/-- What is left of a number behind a zero or underscore `last`: further zeros and underscores
carry nothing, but one character stays in front of a point or at the end. -/
def afterZeros (last : Char) : List Char → Option (List Char)
  | [] => some [last]
  | c :: rest =>
    if c = '0' || c = '_' then afterZeros c rest
    else if isLeading c then some (c :: rest)
    else if c = '.' then some (last :: c :: rest)
    else none

/-- A number without its leading zeros. -/
def withoutLeadingZeros : List Char → Option (List Char)
  | [] => none
  | c :: rest =>
    if c = '0' then afterZeros c rest
    else if isLeading c then some (c :: rest)
    else none

/-- The digits before a point that only zeros follow. -/
def withoutZeroFraction (cs : List Char) : List Char :=
  match cs.dropWhile (· != '.') with
  | '.' :: fraction =>
    if !fraction.isEmpty && fraction.all (· = '0') then cs.takeWhile (· != '.') else cs
  | _ => cs

/-- Whether two underscores follow each other. -/
def hasDoubleUnderscore : List Char → Bool
  | '_' :: '_' :: _ => true
  | _ :: rest => hasDoubleUnderscore rest
  | [] => false

/-- Single underscores inside a number carry nothing. -/
def withoutUnderscores (cs : List Char) : List Char :=
  if cs.head? = some '_' || cs.getLast? = some '_' || hasDoubleUnderscore cs then cs
  else cs.filter (· != '_')

/-- An integer in text: a plain one, or else one with white space around it, leading zeros, a
fraction of zeros and single underscores. -/
def integerInText (s : String) : Except Complaint Int :=
  if s.utf8ByteSize > mostOctets then .error .intSize
  else
    let cleaned? := (withoutLeadingZeros (Text.stripWhere Text.isWhiteSpace s.toList)).bind
      fun cs => plainInteger? (withoutUnderscores (withoutZeroFraction cs))
    match (plainInteger? s.toList).or cleaned? with
    | some n => .ok n
    | none => .error .intParsing

/-- A whole number that is not a text. -/
def integerOfFloat (x : Float) : Except Complaint Int :=
  match Number.Binary64.ofFloat x with
  | none => .error .notFinite
  | some b =>
    if !b.isIntegral then .error .intFromFraction
    else if b.truncate.natAbs < Nat.pow 2 63 then .ok b.truncate
    else .error .intSize

/-- The value or the complaint of a reader. -/
def ofExcept {α : Type} : Except Complaint α → Checked α
  | .ok a => pure a
  | .error complaint => complain complaint

/-- An integer. -/
def integer : Value → Checked Int
  | .int n => pure n
  | .bool b => pure (if b then 1 else 0)
  | .float x => ofExcept (integerOfFloat x)
  | v =>
    match text? v with
    | some (.ok s) => ofExcept (integerInText s)
    | some (.error _) => complain .intParsing
    | none => complain .intType

/-- Whether the integer fits a machine word of 64 bits. -/
def isWord (n : Int) : Bool :=
  -Int.pow 2 63 ≤ n && n < Int.pow 2 63

/-- The words for true. -/
def trueWords : List String := ["1", "on", "t", "true", "y", "yes"]

/-- The words for false. -/
def falseWords : List String := ["0", "off", "f", "false", "n", "no"]

/-- A truth value in text. -/
def boolInText (s : String) : Checked Bool :=
  let word := String.ofList (s.toList.map Char.toLower)
  if trueWords.contains word then pure true
  else if falseWords.contains word then pure false
  else complain .boolParsing

/-- A truth value, a word for one, or zero or one. -/
def bool : Value → Checked Bool
  | .bool b => pure b
  | .int n =>
    if n = 0 then pure false
    else if n = 1 then pure true
    else complain (if isWord n then .boolParsing else .boolType)
  | .float x =>
    match integerOfFloat x with
    | .ok 0 => pure false
    | .ok 1 => pure true
    | .ok _ => complain .boolParsing
    | .error _ => complain .boolType
  | v =>
    match text? v with
    | some (.ok s) => boolInText s
    | some (.error _) => complain .boolParsing
    | none => complain .boolType

/-- A truth value and nothing that stands for one. -/
def strictBool : Value → Checked Bool
  | .bool b => pure b
  | _ => complain .boolType

/-! ## Collections -/

/-- Null, or a value. -/
def nullable {α : Type} (read : Value → Checked α) : Value → Checked (Option α)
  | .null => pure none
  | v => some <$> read v

/-- The items of a list. -/
def list {α : Type} (read : Value → Checked α) : Value → Checked (List α)
  | .list vs | .set vs | .tuple vs => Checked.items 0 (vs.map read)
  | _ => complain .listType

/-- The items of a tuple. -/
def tuple {α : Type} (read : Value → Checked α) : Value → Checked (List α)
  | .list vs | .set vs | .tuple vs => Checked.items 0 (vs.map read)
  | _ => complain .tupleType

/-- The step to a key. -/
def keyStep : Value → Step
  | .str s => .name s
  | .bool b => .index (if b then 1 else 0)
  | .int n => if isWord n then .index n else .name (Text.ofInt n)
  | v => .name v.quoted

/-- The entries of a mapping from texts; complaints about a key are marked.  Keys that stand for the
same text are one entry, and the last of their values counts. -/
def dict {α : Type} (read : Value → Checked α) : Value → Checked (List (String × α))
  | .map entries =>
    Keyed.putAll (· == ·) [] <$> Checked.all (entries.map fun (k, v) =>
      Prod.mk <$> ((string k).at_ (.name "[key]")).at_ (keyStep k) <*> (read v).at_ (keyStep k))
  | _ => complain .dictType

/-! ## Records -/

/-- A field that must be there. -/
def required {α : Type} (entries : List (Value × Value)) (name : String)
    (read : Value → Checked α) : Checked α :=
  match Value.get? entries name with
  | some v => (read v).at_ (.name name)
  | none => (complain .missing).at_ (.name name)

/-- A field that may be left out. -/
def optional {α : Type} (entries : List (Value × Value)) (name : String) (default : α)
    (read : Value → Checked α) : Checked α :=
  match Value.get? entries name with
  | some v => (read v).at_ (.name name)
  | none => pure default

/-- Refuses the keys that no field uses. -/
def noExtras (used : List String) (entries : List (Value × Value)) : Checked Unit :=
  (fun _ => ()) <$> Checked.all (entries.map fun (k, _) =>
    match k with
    | .str s => if used.contains s then pure () else (complain .extraForbidden).at_ (.name s)
    | k => (complain .keyType).at_ (keyStep k))

/-- The entries of a record. -/
def record {α : Type} (model : String) (read : List (Value × Value) → Checked α) :
    Value → Checked α
  | .map entries => read entries
  | _ => complain (.modelType model)

end ModifierLint.Schema
