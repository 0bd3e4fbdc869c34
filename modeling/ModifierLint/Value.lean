/-
# Values of configuration documents

`Value` is what a configuration file, an option or a log field can hold.  Mappings keep the order
in which their keys were written.  Two keys are the same (`Value.sameKey`) when they are equal as
values, where truth values and numbers compare by number: `1`, `1.0` and `true` name one entry.
-/
import ModifierLint.Number.Shortest
import ModifierLint.Text.Quoted
import ModifierLint.Text.Decimal
import ModifierLint.Keyed
import ModifierLint.Calendar

namespace ModifierLint

/-- A value of a configuration document. -/
inductive Value
  | null
  | bool (b : Bool)
  | int (n : Int)
  | float (x : Float)
  | str (s : String)
  | date (d : Date)
  | dateTime (t : DateTime)
  | bytes (octets : List UInt8)
  | set (elements : List Value)
  | list (elements : List Value)
  | tuple (elements : List Value)
  | map (entries : List (Value × Value))
  deriving Inhabited

namespace Value

/-- Whether the value counts as something: not null, false, zero or empty. -/
def isTruthy : Value → Bool
  | .null => false
  | .bool b => b
  | .int n => n != 0
  | .float x => x != 0
  | .str s => !s.isEmpty
  | .bytes octets => !octets.isEmpty
  | .set elements | .list elements | .tuple elements => !elements.isEmpty
  | .map entries => !entries.isEmpty
  | .date _ | .dateTime _ => true

/-- Whether the value can be a key or an element of a set; a tuple can if its elements can. -/
def isHashable : Value → Bool
  | .set _ | .list _ | .map _ => false
  | .tuple elements => elements.attach.all fun ⟨v, _⟩ => v.isHashable
  | _ => true

/-- The exact integer that a finite number without a fraction equals. -/
def integral? (x : Float) : Option Int :=
  (Number.Binary64.ofFloat x).bind fun b => if b.isIntegral then some b.truncate else none

/-- The integer that a truth value or number equals. -/
def asInteger? : Value → Option Int
  | .bool b => some (if b then 1 else 0)
  | .int n => some n
  | .float x => integral? x
  | _ => none

/-- Whether two values that are not tuples name the same key.  A number that is none is the same key
as itself. -/
def sameSimpleKey (a b : Value) : Bool :=
  match a, b with
  | .null, .null => true
  | .str s, .str t => s == t
  | .date d, .date e => d == e
  | .dateTime t, .dateTime u => t == u
  | .bytes s, .bytes t => s == t
  | _, _ =>
    match a.asInteger?, b.asInteger? with
    | some m, some n => m == n
    | none, none =>
      match a, b with
      | .float x, .float y => x == y || (x.isNaN && y.isNaN)
      | _, _ => false
    | _, _ => false

/-- Whether two values name the same key; tuples do if their elements do one by one. -/
def sameKey (a b : Value) : Bool :=
  match a, b with
  | .tuple as, .tuple bs =>
    as.length == bs.length && (as.zip bs).all fun (a, b) => sameSimpleKey a b
  | _, _ => sameSimpleKey a b

/-- The value under a key. -/
def lookup? {ν : Type} (entries : List (Value × ν)) (key : Value) : Option ν :=
  Keyed.find? (·.sameKey key) entries

/-- The value under a text key. -/
def get? {ν : Type} (entries : List (Value × ν)) (key : String) : Option ν :=
  lookup? entries (.str key)

/-- Writes a value under a key. -/
def insert {ν : Type} (key : Value) (value : ν) (entries : List (Value × ν)) :
    List (Value × ν) :=
  Keyed.put sameKey key value entries

/-- The entries that remain without a key. -/
def erase {ν : Type} (key : Value) (entries : List (Value × ν)) : List (Value × ν) :=
  Keyed.remove (·.sameKey key) entries

/-- A mapping with text keys. -/
def record (fields : List (String × Value)) : Value :=
  .map (fields.map fun (k, v) => (.str k, v))

/-- A list of texts. -/
def texts (items : List String) : Value :=
  .list (items.map .str)

/-- The parts that a value is a sequence of: a text's characters, a mapping's keys. -/
def elements? : Value → Option (List Value)
  | .str s => some (s.toList.map fun c => .str c.toString)
  | .bytes octets => some (octets.map fun b => .int b.toNat)
  | .set elements | .list elements | .tuple elements => some elements
  | .map entries => some (entries.map Prod.fst)
  | _ => none

/-- Why a value cannot be taken as a mapping. -/
inductive NoMapping
  | notASequence
  | notAPair (index length : Nat)
  deriving Repr, DecidableEq

/-- The text of the error. -/
def NoMapping.message : NoMapping → String
  | notASequence => "not a mapping"
  | notAPair index length =>
    "dictionary update sequence element #" ++ Nat.repr index ++ " has length " ++ Nat.repr length ++
      "; 2 is required"

/-- Writes the pairs of a sequence, where `index` is the index of the first, into a mapping. -/
def writePairs (index : Nat) (entries : List (Value × Value)) :
    List Value → Except NoMapping (List (Value × Value))
  | [] => .ok entries
  | v :: rest =>
    match v.elements? with
    | none => .error .notASequence
    | some [key, value] =>
      if key.isHashable then writePairs (index + 1) (insert key value entries) rest
      else .error .notASequence
    | some parts => .error (.notAPair index parts.length)

/-- The entries of a mapping, or of a sequence of pairs. -/
def toEntries : Value → Except NoMapping (List (Value × Value))
  | .map entries => .ok entries
  | v =>
    match v.elements? with
    | none => .error .notASequence
    | some pairs => writePairs 0 [] pairs

/-- Octets between quotes. -/
def bytesText (octets : List UInt8) : String :=
  let ascii := octets.map fun b => Char.ofNat b.toNat
  let quote := Text.Quoted.quoteFor (String.ofList ascii)
  let shown (c : Char) : Bool := 0x20 ≤ c.toNat && c.toNat < 0x7F
  "b" ++ String.ofList (quote :: ascii.flatMap (Text.Quoted.character shown quote) ++ [quote])

/-- Numbers separated by commas. -/
def numbers (ns : List Nat) : String :=
  String.intercalate ", " (ns.map Nat.repr)

mutual

/-- The text of a value inside a list or mapping. -/
def quoted : Value → String
  | .null => "None"
  | .bool b => if b then "True" else "False"
  | .int n => Text.ofInt n
  | .float x => Number.render x
  | .str s => Text.Quoted.text s
  | .date d => "datetime.date(" ++ numbers d.parts ++ ")"
  | .dateTime t => "datetime.datetime(" ++ numbers t.parts ++ t.offsetText ++ ")"
  | .bytes octets => bytesText octets
  | .set [] => "set()"
  | .set elements => "\x7b" ++ String.intercalate ", " (quotedAll elements) ++ "\x7d"
  | .list elements => "[" ++ String.intercalate ", " (quotedAll elements) ++ "]"
  | .tuple [v] => "(" ++ quoted v ++ ",)"
  | .tuple elements => "(" ++ String.intercalate ", " (quotedAll elements) ++ ")"
  | .map entries => "\x7b" ++ String.intercalate ", " (quotedEntries entries) ++ "\x7d"

/-- The texts of the elements. -/
def quotedAll : List Value → List String
  | [] => []
  | v :: rest => quoted v :: quotedAll rest

/-- The texts of the entries. -/
def quotedEntries : List (Value × Value) → List String
  | [] => []
  | (k, v) :: rest => (quoted k ++ ": " ++ quoted v) :: quotedEntries rest

end

mutual

/-- Whether every integer in the value can be written, and so the value itself. -/
def isWritable : Value → Bool
  | .int n => Text.isWritable n
  | .set elements | .list elements | .tuple elements => areWritable elements
  | .map entries => entriesAreWritable entries
  | _ => true

/-- Whether the elements can be written. -/
def areWritable : List Value → Bool
  | [] => true
  | v :: rest => isWritable v && areWritable rest

/-- Whether the entries can be written. -/
def entriesAreWritable : List (Value × Value) → Bool
  | [] => true
  | (k, v) :: rest => isWritable k && isWritable v && entriesAreWritable rest

end

/-- The text of a value on its own: texts stand for themselves. -/
def text : Value → String
  | .str s => s
  | .date d => d.iso
  | .dateTime t => t.iso " "
  | v => v.quoted

end Value

end ModifierLint
