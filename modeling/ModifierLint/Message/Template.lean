/-
# Message templates

A template is text with replacement fields in braces; a brace that is meant as text is doubled.  A
field names an argument by number (`{0}`), or takes the next one (`{}`); the two ways do not mix.
Items of the argument follow in square brackets and its attributes after points, then a conversion
after `!` (`s`, `r`, `a`), then a layout after `:` (fill, alignment, width, precision).  A layout
may hold fields of its own.

Templates are read while they are filled: a mistake counts only when the reader gets there.
`Template.next` takes the first literal piece and field off the front, and `Template.format` fills
fields from left to right.
-/
import ModifierLint.Message.Attribute
import ModifierLint.Text.Decimal

namespace ModifierLint.Template

/-! ## What can go wrong -/

/-- A reason why a template cannot be filled. -/
inductive Fault
  /-- There is no argument with this number. -/
  | noArgument (index : Nat)
  /-- Arguments have numbers, not names. -/
  | noName (name : String)
  /-- The text of an argument has no such character. -/
  | noCharacter
  /-- There is no such item of several. -/
  | noItem
  /-- There is no attribute with this name. -/
  | noAttribute
  /-- An item is named by its number only. -/
  | noTextItem
  /-- It has no items. -/
  | noItems
  /-- Only texts have layouts. -/
  | noLayout
  | singleOpen
  | singleClose
  | openInName
  | unclosed
  | noConversion
  | afterConversion
  | unclosedLayout
  | tooDeep
  | tooManyDigits
  | automaticToManual
  | manualToAutomatic
  | afterItem
  | unclosedItem
  | emptyAttribute
  | unknownConversion (c : Char)
  | unknownType (c : Char)
  | separatorType (separator c : Char)
  | twoSeparators
  | noPrecision
  | malformedLayout (layout : String)
  | spaceSign
  | sign
  | negativeZero
  | alternate
  | signAlignment
  deriving Repr, DecidableEq

/-- What kind of mistake a fault is. -/
inductive FaultKind
  /-- An argument is missing; the message can still be shown without filling. -/
  | missingIndex
  | missingName
  | attribute
  /-- Something is used in a way that its type does not know. -/
  | misuse
  | malformed
  deriving Repr, DecidableEq

/-- The kind of a fault. -/
def Fault.kind : Fault → FaultKind
  | .noArgument _ | .noCharacter | .noItem => .missingIndex
  | .noName _ => .missingName
  | .noAttribute => .attribute
  | .noTextItem | .noItems | .noLayout => .misuse
  | _ => .malformed

/-- Whether the message can still be shown without filling. -/
def Fault.isMissing (f : Fault) : Bool :=
  f.kind = .missingIndex || f.kind = .missingName

/-- A character as it is, or its number after `\x` if it is not visible ASCII below `limit`. -/
def visible (limit : Nat) (c : Char) : String :=
  if 32 < c.toNat && c.toNat < limit then c.toString
  else "\\x" ++ String.ofList (Nat.toDigits 16 c.toNat)

/-- The text of a fault. -/
def Fault.message : Fault → String
  | .noArgument i =>
    "Replacement index " ++ Nat.repr i ++ " out of range for positional args tuple"
  | .noName name => Text.Quoted.text name
  | .noCharacter => "string index out of range"
  | .noItem => "tuple index out of range"
  | .noAttribute => "no such attribute"
  | .noTextItem => "string indices must be integers, not 'str'"
  | .noItems => "not a sequence"
  | .noLayout => "unsupported layout"
  | .singleOpen => "Single '\x7b' encountered in format string"
  | .singleClose => "Single '\x7d' encountered in format string"
  | .openInName => "unexpected '\x7b' in field name"
  | .unclosed => "expected '\x7d' before end of string"
  | .noConversion => "end of string while looking for conversion specifier"
  | .afterConversion => "expected ':' after conversion specifier"
  | .unclosedLayout => "unmatched '\x7b' in format spec"
  | .tooDeep => "Max string recursion exceeded"
  | .tooManyDigits => "Too many decimal digits in format string"
  | .automaticToManual =>
    "cannot switch from automatic field numbering to manual field specification"
  | .manualToAutomatic =>
    "cannot switch from manual field specification to automatic field numbering"
  | .afterItem => "Only '.' or '[' may follow ']' in format field specifier"
  | .unclosedItem => "Missing ']' in format string"
  | .emptyAttribute => "Empty attribute in format string"
  | .unknownConversion c => "Unknown conversion specifier " ++ visible 127 c
  | .unknownType c => "Unknown format code '" ++ visible 128 c ++ "' for object of type 'str'"
  | .separatorType s c => "Cannot specify '" ++ s.toString ++ "' with '" ++ visible 128 c ++ "'."
  | .twoSeparators => "Cannot specify both ',' and '_'."
  | .noPrecision => "Format specifier missing precision"
  | .malformedLayout layout =>
    "Invalid format specifier '" ++ layout ++ "' for object of type 'str'"
  | .spaceSign => "Space not allowed in string format specifier"
  | .sign => "Sign not allowed in string format specifier"
  | .negativeZero => "Negative zero coercion (z) not allowed in string format specifier"
  | .alternate => "Alternate form (#) not allowed in string format specifier"
  | .signAlignment => "'=' alignment not allowed in string format specifier"

/-! ## Reading -/

/-- A replacement field as written. -/
structure Field where
  name : List Char
  conversion : Option Char
  layout : List Char
  /-- Whether the layout has a brace, so that it is a template of its own. -/
  nested : Bool
  deriving Repr, DecidableEq

/-- Literal text, the field after it if one follows, and the rest of the template. -/
structure Piece where
  literal : List Char
  field : Option Field
  rest : List Char
  deriving Repr, DecidableEq

/-- The name of a field and the character that ends it (`}`, `:` or `!`). -/
def fieldName (name : List Char) :
    Bool → List Char → Except Fault (List Char × Char × List Char)
  | _, [] => .error .unclosed
  | true, c :: rest => fieldName (c :: name) (c != ']') rest
  | false, c :: rest =>
    if c = '\x7b' then .error .openInName
    else if c = '\x7d' || c = ':' || c = '!' then .ok (name.reverse, c, rest)
    else fieldName (c :: name) (c = '[') rest

/-- The layout of a field up to the brace that closes the field; `depth` braces are open. -/
def fieldLayout (layout : List Char) (nested : Bool) (depth : Nat) :
    List Char → Except Fault (List Char × Bool × List Char)
  | [] => .error .unclosedLayout
  | c :: rest =>
    if c = '\x7b' then fieldLayout (c :: layout) true (depth + 1) rest
    else if c = '\x7d' then
      if depth = 1 then .ok (layout.reverse, nested, rest)
      else fieldLayout (c :: layout) nested (depth - 1) rest
    else fieldLayout (c :: layout) nested depth rest

/-- The field that an opening brace begins. -/
def field (s : List Char) : Except Fault (Field × List Char) := do
  let (name, stop, rest) ← fieldName [] false s
  if stop = '\x7d' then return (⟨name, none, [], false⟩, rest)
  if stop = ':' then
    let (layout, nested, rest) ← fieldLayout [] false 1 rest
    return (⟨name, none, layout, nested⟩, rest)
  match rest with
  | [] => .error .noConversion
  | [_] => .error .unclosedLayout
  | conversion :: c :: rest =>
    if c = '\x7d' then return (⟨name, some conversion, [], false⟩, rest)
    if c ≠ ':' then .error .afterConversion
    let (layout, nested, rest) ← fieldLayout [] false 1 rest
    return (⟨name, some conversion, layout, nested⟩, rest)

/-- The first piece of a template.  A doubled brace ends a piece that has no field. -/
def next (literal : List Char) : List Char → Except Fault Piece
  | [] => .ok ⟨literal.reverse, none, []⟩
  | c :: rest =>
    if c = '\x7b' then
      match rest with
      | [] => .error .singleOpen
      | d :: more =>
        if d = '\x7b' then .ok ⟨(c :: literal).reverse, none, more⟩
        else (field rest).map fun (f, rest) => ⟨literal.reverse, some f, rest⟩
    else if c = '\x7d' then
      match rest with
      | [] => .error .singleClose
      | d :: more =>
        if d = '\x7d' then .ok ⟨(c :: literal).reverse, none, more⟩ else .error .singleClose
    else next (c :: literal) rest

/-- The largest number a template may write. -/
def largestNumber : Nat := Nat.pow 2 63 - 1

/-- The number that decimal digits at the front write, how many there are, and what follows. -/
def numberAtFront (count acc : Nat) : List Char → Except Fault (Nat × Nat × List Char)
  | [] => .ok (count, acc, [])
  | c :: rest =>
    match Text.digitValue? c with
    | none => .ok (count, acc, c :: rest)
    | some d =>
      if acc > (largestNumber - d) / 10 then .error .tooManyDigits
      else numberAtFront (count + 1) (acc * 10 + d) rest

/-- The number that a name consists of; the digits before another character may be too many. -/
def wholeNumber (name : List Char) : Except Fault (Option Nat) := do
  let (count, n, rest) ← numberAtFront 0 0 name
  return if rest.isEmpty && count > 0 then some n else none

/-! ## Arguments -/

/-- How the fields so far took their arguments. -/
inductive Numbering
  | undecided
  | automatic (next : Nat)
  | manual
  deriving Repr, DecidableEq

/-- The number of the next argument taken without a number. -/
def Numbering.takeNext : Numbering → Except Fault (Nat × Numbering)
  | .undecided => .ok (0, .automatic 1)
  | .automatic i => .ok (i, .automatic (i + 1))
  | .manual => .error .manualToAutomatic

/-- Takes an argument by number. -/
def Numbering.takeNumber : Numbering → Except Fault Numbering
  | .automatic _ => .error .automaticToManual
  | _ => .ok .manual

/-- The argument that a field names, before its items. -/
def argument (args : List String) (numbering : Numbering) (name : List Char) :
    Except Fault (String × Numbering) := do
  let (index, numbering) ←
    if name.isEmpty then numbering.takeNext
    else match ← wholeNumber name with
      | some i => (numbering.takeNumber).map (i, ·)
      | none => .error (.noName (String.ofList name))
  match args[index]? with
  | some arg => .ok (arg, numbering)
  | none => .error (.noArgument index)

/-- Whether a character begins the next item of a field name. -/
def opensItem (c : Char) : Bool :=
  c = '.' || c = '['

/-- The item with a number, if the item has one; an item of a text is one of its characters. -/
def item (value : Subject) (index : Option Nat) : Except Fault Subject :=
  match value, index with
  | .text s, some i => (s.toList[i]?).elim (.error .noCharacter) fun c => .ok (.text c.toString)
  | .types ks, some i => (ks[i]?).elim (.error .noItem) fun k => .ok (.type k)
  | .text _, none | .types _, none => .error .noTextItem
  | _, _ => .error .noItems

/-- Follows the items and attributes of a field name. -/
def follow (value : Subject) : Nat → List Char → Except Fault Subject
  | 0, _ | _, [] => .ok value
  | fuel + 1, c :: rest =>
    if c = '.' then
      let name := rest.takeWhile (!opensItem ·)
      if name.isEmpty then .error .emptyAttribute
      else
        match value.attribute? (String.ofList name) with
        | some value => follow value fuel (rest.drop name.length)
        | none => .error .noAttribute
    else if c ≠ '[' then .error .afterItem
    else
      match rest.dropWhile (· != ']') with
      | [] => .error .unclosedItem
      | _ :: after => do
        let key := rest.takeWhile (· != ']')
        let index ← wholeNumber key
        if key.isEmpty then .error .emptyAttribute
        follow (← item value index) fuel after

/-- The value of a field name. -/
def fieldValue (args : List String) (numbering : Numbering) (name : List Char) :
    Except Fault (Subject × Numbering) := do
  let (value, numbering) ← argument args numbering (name.takeWhile (!opensItem ·))
  let items := name.dropWhile (!opensItem ·)
  return (← follow (.text value) (items.length + 1) items, numbering)

/-- Applies a conversion; the character NUL asks for none. -/
def convert (value : Subject) : Option Char → Except Fault Subject
  | none | some '\x00' => .ok value
  | some 's' => .ok (.text value.display)
  | some 'r' => .ok (.text value.quoted)
  | some 'a' => .ok (.text (Text.Quoted.asciiOnly value.quoted))
  | some c => .error (.unknownConversion c)

/-! ## Layout -/

/-- A layout that has been read. -/
structure Layout where
  fill : Char
  align : Char
  sign : Option Char
  negativeZero : Bool
  alternate : Bool
  width : Option Nat
  precision : Option Nat
  type : Char
  deriving Repr, DecidableEq

/-- Whether the character is an alignment. -/
def isAlignment (c : Char) : Bool :=
  c = '<' || c = '>' || c = '=' || c = '^'

/-- Fill and alignment: whether a fill is given, both, and what follows. -/
def alignment : List Char → Bool × Char × Char × List Char
  | [] => (false, ' ', '<', [])
  | [c] => if isAlignment c then (false, ' ', c, []) else (false, ' ', '<', [c])
  | c :: d :: rest =>
    if isAlignment d then (true, c, d, rest)
    else if isAlignment c then (false, ' ', c, d :: rest)
    else (false, ' ', '<', c :: d :: rest)

/-- A number, if digits stand at the front. -/
def numberPart (s : List Char) : Except Fault (Option Nat × List Char) := do
  let (count, n, rest) ← numberAtFront 0 0 s
  return (if count = 0 then none else some n, rest)

/-- A character of the class, if one stands at the front. -/
def optionalChar (admits : Char → Bool) : List Char → Option Char × List Char
  | c :: rest => if admits c then (some c, rest) else (none, c :: rest)
  | [] => (none, [])

/-- The separator of thousands, if one is given. -/
def separatorPart (s : List Char) : Except Fault (Option Char × List Char) :=
  let (comma, s) := optionalChar (· = ',') s
  let (underscore, s) := optionalChar (· = '_') s
  match comma, underscore, s with
  | some _, some _, _ => .error .twoSeparators
  | none, some _, ',' :: _ => .error .twoSeparators
  | _, _, _ => .ok (comma.or underscore, s)

/-- The precision, if a point stands at the front. -/
def precisionPart : List Char → Except Fault (Option Nat × List Char)
  | '.' :: rest => do
    let (precision, rest) ← numberPart rest
    if precision.isNone then .error .noPrecision
    return (precision, rest)
  | s => .ok (none, s)

/-- The presentation types that go with a separator of thousands. -/
def admitsSeparator (separator type : Char) : Bool :=
  "deEfFgG%\x00".toList.contains type || (separator = '_' && "boxX".toList.contains type)

/-- Reads a layout. -/
def layout (spec : List Char) : Except Fault Layout := do
  let (filled, fill, align, s) := alignment spec
  let (sign, s) := optionalChar (fun c => c = ' ' || c = '+' || c = '-') s
  let (coerced, s) := optionalChar (· = 'z') s
  let (hash, s) := optionalChar (· = '#') s
  let (zero, s) := if filled then (none, s) else optionalChar (· = '0') s
  let (width, s) ← numberPart s
  let (separator, s) ← separatorPart s
  let (precision, s) ← precisionPart s
  let type ← match s with
    | [] => .ok 's'
    | [c] => .ok c
    | _ => .error (.malformedLayout (String.ofList spec))
  match separator with
  | some c => if !admitsSeparator c type then .error (.separatorType c type)
  | none => pure ()
  return ⟨if zero.isSome then '0' else fill, align, sign, coerced.isSome, hash.isSome, width,
    precision, type⟩

/-- Lays out a text that fits its width. -/
def Layout.apply (l : Layout) (value : List Char) : List Char :=
  let value := match l.precision with
    | some p => value.take p
    | none => value
  let padding := l.width.getD 0 - value.length
  let left := if l.align = '>' then padding else if l.align = '^' then padding / 2 else 0
  List.replicate left l.fill ++ value ++ List.replicate (padding - left) l.fill

/-- Numbers have layouts that texts have not. -/
def Layout.check (l : Layout) : Except Fault Unit :=
  if l.type ≠ 's' then .error (.unknownType l.type)
  else if l.sign = some ' ' then .error .spaceSign
  else if l.sign.isSome then .error .sign
  else if l.negativeZero then .error .negativeZero
  else if l.alternate then .error .alternate
  else if l.align = '=' then .error .signAlignment
  else .ok ()

/-- Lays out a text as a layout says; an empty layout changes nothing. -/
def lay (spec : List Char) (value : Subject) : Except Fault String :=
  if spec.isEmpty then .ok value.display
  else
    match value with
    | .text s => do
      let l ← layout spec
      l.check
      return String.ofList (l.apply s.toList)
    | _ => .error .noLayout

/-! ## Filling -/

/-- Fills the fields of a template whose layouts may hold fields `depth - 1` levels deep. -/
def expand (args : List String) (depth : Nat) (numbering : Numbering) :
    Nat → List Char → Except Fault (String × Numbering)
  | 0, _ => .ok ("", numbering)
  | fuel + 1, s =>
    if s.isEmpty then .ok ("", numbering)
    else do
      let piece ← next [] s
      let literal := String.ofList piece.literal
      match piece.field with
      | none =>
        let (rest, numbering) ← expand args depth numbering fuel piece.rest
        return (literal ++ rest, numbering)
      | some f =>
        let (value, numbering) ← fieldValue args numbering f.name
        let value ← convert value f.conversion
        let (spec, numbering) ←
          if f.nested then
            match depth with
            | 0 | 1 => .error .tooDeep
            | inner + 1 =>
              (expand args inner numbering (f.layout.length + 1) f.layout).map fun (s, n) =>
                (s.toList, n)
          else .ok (f.layout, numbering)
        let value ← lay spec value
        let (rest, numbering) ← expand args depth numbering fuel piece.rest
        return (literal ++ value ++ rest, numbering)
termination_by fuel => (depth, fuel)

/-- The template with its fields filled. -/
def format (template : String) (args : List String) : Except Fault String :=
  let s := template.toList
  (expand args 2 .undecided (s.length + 1) s).map Prod.fst

end ModifierLint.Template
