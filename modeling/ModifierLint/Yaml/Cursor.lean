/-
# Reading YAML text

A cursor stands in the text of a document and knows its line and column, on which the structure of
a document depends.  The end of the text reads as the character NUL, which no document contains.

A text is taken in pieces, so that what is wrong with a piece is only noticed if it is needed.
`Source.readable` is the text in front of such a piece.
-/
import ModifierLint.Text.Decimal
import ModifierLint.Text.Quoted
import ModifierLint.Text.Utf8

namespace ModifierLint.Yaml

/-- What can be wrong with a document. -/
inductive Fault
  /-- The text is not YAML, or not YAML that configurations may use. -/
  | malformed
  /-- A scalar has no closing quote before the end of the text. -/
  | unclosed
  /-- The text is no UTF-8. -/
  | unreadable (e : Text.Utf8.Invalid)
  /-- A numeric escape is beyond Unicode. -/
  | codePoint
  | notInteger (base : Nat) (text : String)
  | tooManyDigits (count : Nat)
  | notFloat (text : String)
  | notBool (text : String)
  | notTimestamp
  /-- A moment is not given by a text. -/
  | notText
  /-- A number has no digits. -/
  | emptyNumber
  /-- A number in base sixty has more parts than a number of double precision can have. -/
  | tooManyParts
  /-- The default of a mapping is the mapping itself. -/
  | endless
  | dateRange (reason : String)
  deriving Repr, DecidableEq

/-- How many characters of a quoted text a message shows. -/
def shownCharacters : Nat := 200

/-- The text of a fault. -/
def Fault.message : Fault → String
  | .malformed | .unclosed => "malformed document"
  | .unreadable e => e.message
  | .codePoint => "chr() arg not in range(0x110000)"
  | .notInteger base text =>
    "invalid literal for int() with base " ++ Nat.repr base ++ ": " ++
      String.ofList ((Text.Quoted.text text).toList.take shownCharacters)
  | .tooManyDigits count =>
    "Exceeds the limit (" ++ Nat.repr Text.mostDigits ++ ") for integer string conversion: " ++
      "value has " ++ Nat.repr count ++
      " digits; use sys.set_int_max_str_digits() to increase the limit"
  | .notFloat text => "could not convert string to float: " ++ Text.Quoted.text text
  | .notBool text => text
  | .notTimestamp => "not a timestamp"
  | .notText => "not a text"
  | .emptyNumber => "string index out of range"
  | .tooManyParts => "int too large to convert to float"
  | .endless => "maximum recursion depth exceeded"
  | .dateRange reason => reason

/-- The end of the text. -/
def endMark : Char := '\x00'

/-- Whether the character breaks a line. -/
def isBreak (c : Char) : Bool :=
  c = '\n' || c = '\r' || c = '\u0085' || c = '\u2028' || c = '\u2029'

/-- Whether a line ends here. -/
def isLineEnd (c : Char) : Bool :=
  c = endMark || isBreak c

/-- Whether a word ends here. -/
def isWordEnd (c : Char) : Bool :=
  c = ' ' || c = '\t' || isLineEnd c

/-- Whether the character may stand in a name. -/
def isNameChar (c : Char) : Bool :=
  c.isAlphanum || c = '-' || c = '_'

/-- The mark of byte order, which takes no column. -/
def byteOrderMark : Char := '\uFEFF'

/-- Whether the character may stand in a document. -/
def isAllowed (c : Char) : Bool :=
  let n := c.toNat
  n = 0x09 || n = 0x0A || n = 0x0D || (0x20 ≤ n && n ≤ 0x7E) || n = 0x85 ||
    (0xA0 ≤ n && n ≤ 0xD7FF) || (0xE000 ≤ n && n ≤ 0xFFFD) || 0x10000 ≤ n

/-- A text up to where it can be read, and what is wrong there. -/
structure Source where
  text : List Char
  fault : Option Fault := none
  deriving Repr

namespace Source

/-- The number of characters of a piece.  The first piece is twice as long. -/
def pieceLength : Nat := 4096

/-- Where the piece begins that holds the character at `index`. -/
def pieceStart (index : Nat) : Nat :=
  if index < 2 * pieceLength then 0 else index / pieceLength * pieceLength

/-- The text in front of the first piece with something wrong in it, and what that is. -/
def readable (s : Source) : Source :=
  let allowed := (s.text.takeWhile isAllowed).length
  let readsOn := s.fault.isNone || pieceStart allowed < pieceStart s.text.length
  if allowed < s.text.length && readsOn then ⟨s.text.take (pieceStart allowed), some .malformed⟩
  else if s.fault.isSome then { s with text := s.text.take (pieceStart s.text.length) }
  else s

end Source

/-- A place in the text of a document. -/
structure Cursor where
  rest : List Char
  index : Nat := 0
  line : Nat := 0
  column : Nat := 0
  deriving Repr

namespace Cursor

/-- The character `n` places ahead. -/
def peek (c : Cursor) (n : Nat) : Char :=
  c.rest[n]?.getD endMark

/-- The character at the cursor. -/
def here (c : Cursor) : Char :=
  c.rest.headD endMark

/-- Steps over a character. -/
def step (c : Cursor) : Cursor :=
  match c.rest with
  | [] => c
  | d :: rest =>
    let endsLine := isBreak d && !(d = '\r' && rest.head? = some '\n')
    { rest
      index := c.index + 1
      line := if endsLine then c.line + 1 else c.line
      column :=
        if endsLine then 0 else if d = byteOrderMark then c.column else c.column + 1 }

/-- Steps over `n` characters. -/
def skip : Nat → Cursor → Cursor
  | 0, c => c
  | n + 1, c => skip n c.step

/-- Steps over the characters of a class. -/
def skipWhile (p : Char → Bool) (c : Cursor) : Cursor :=
  skip (c.rest.takeWhile p).length c

/-- The characters of a class ahead, and the place behind them. -/
def takeWhile (p : Char → Bool) (c : Cursor) : List Char × Cursor :=
  let taken := c.rest.takeWhile p
  (taken, skip taken.length c)

/-- Steps over spaces. -/
def skipSpaces (c : Cursor) : Cursor :=
  c.skipWhile (· = ' ')

/-- Steps over a comment. -/
def skipComment (c : Cursor) : Cursor :=
  if c.here = '#' then c.skipWhile (!isLineEnd ·) else c

/-- Steps over a line break: what it stands for, nothing if there is none. -/
def lineBreak (c : Cursor) : List Char × Cursor :=
  let d := c.here
  if d = '\r' && c.peek 1 = '\n' then (['\n'], c.skip 2)
  else if d = '\n' || d = '\r' || d = '\u0085' then (['\n'], c.step)
  else if d = '\u2028' || d = '\u2029' then ([d], c.step)
  else ([], c)

/-- Whether a document begins or ends here: three marks at the start of a line. -/
def atMarker (c : Cursor) (mark : Char) : Bool :=
  c.rest.take 3 = [mark, mark, mark] && isWordEnd (c.peek 3)

/-- Whether a document begins or ends here. -/
def atSeparator (c : Cursor) : Bool :=
  c.atMarker '-' || c.atMarker '.'

/-- Steps over spaces, a comment and the line break after it; nothing else may stand there. -/
def restOfLine (c : Cursor) : Except Fault Cursor :=
  let c := c.skipSpaces.skipComment
  if isLineEnd c.here then .ok c.lineBreak.2 else .error .malformed

end Cursor

end ModifierLint.Yaml
