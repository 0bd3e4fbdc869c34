/-
# Quoted renderings of text

A quoted text stands between single quotes, or between double quotes if it holds a single and no
double quote.  The backslash and the quote in use are escaped, line feed, carriage return and tab
have letters of their own, and other characters that are not printable are written by code point.
`Quoted.list` and `Quoted.tuple` put quoted texts in brackets.
-/
import ModifierLint.Text.Printable
import ModifierLint.Text.Blank

namespace ModifierLint.Text.Quoted

/-- One lower case hexadecimal digit. -/
def hexDigit (n : Nat) : Char :=
  if n < 10 then Char.ofNat (48 + n) else Char.ofNat (87 + n)

/-- The lower case hexadecimal digits of `n`, at least `width` of them. -/
def hex (width n : Nat) : List Char :=
  (List.range width).map fun i => hexDigit (n / Nat.pow 16 (width - 1 - i) % 16)

/-- The numeric escape of a character: two, four or eight digits. -/
def numericEscape (c : Char) : List Char :=
  if c.toNat < 0x100 then '\\' :: 'x' :: hex 2 c.toNat
  else if c.toNat < 0x10000 then '\\' :: 'u' :: hex 4 c.toNat
  else '\\' :: 'U' :: hex 8 c.toNat

/-- The written form of one character between the quotes `quote`. -/
def character (shown : Char → Bool) (quote c : Char) : List Char :=
  if c = quote || c = '\\' then ['\\', c]
  else if c = '\n' then ['\\', 'n']
  else if c = '\r' then ['\\', 'r']
  else if c = '\t' then ['\\', 't']
  else if shown c then [c]
  else numericEscape c

/-- The quote that needs fewer escapes; the single one if both occur or none does. -/
def quoteFor (s : String) : Char :=
  if s.toList.contains '\'' && !s.toList.contains '\"' then '\"' else '\''

/-- The quoted text; characters outside `shown` are escaped. -/
def textWith (shown : Char → Bool) (s : String) : String :=
  let quote := quoteFor s
  String.ofList (quote :: s.toList.flatMap (character shown quote) ++ [quote])

/-- The quoted text with printable characters as they are. -/
def text (s : String) : String :=
  textWith isPrintable s

/-- A text in which numeric escapes stand for the characters outside ASCII. -/
def asciiOnly (s : String) : String :=
  String.ofList (s.toList.flatMap fun c => if c.toNat < 0x80 then [c] else numericEscape c)

/-- Quoted texts in square brackets. -/
def list (texts : List String) : String :=
  "[" ++ String.intercalate ", " (texts.map text) ++ "]"

/-- Quoted texts in round brackets; a single one is followed by a comma. -/
def tuple : List String → String
  | [s] => "(" ++ text s ++ ",)"
  | texts => "(" ++ String.intercalate ", " (texts.map text) ++ ")"

end ModifierLint.Text.Quoted
