/-
# Tokens of Java

`Token.scan` cuts a text into words, numbers, characters, strings and symbols.  White space and
comments only stand between tokens.  A closing angle bracket is a token of its own, since it may end
type arguments; whether it belongs to an operator follows from `Token.glued`, which says that
nothing stands before the token.  A string that holds expressions is cut into the parts around
them.

Whether a parenthesis opens the parameters of a lambda expression is known from the token after its
partner, so every token is told this in a second pass from the end.
-/
import ModifierLint.Java.Cst
import ModifierLint.Text.Identifier

namespace ModifierLint.Java

/-- A place in a file. -/
structure Place where
  offset : Nat := 0
  point : Point := ⟨0, 0⟩
  deriving Repr, DecidableEq, Inhabited

/-- The place after a character. -/
def Place.after (p : Place) (c : Char) : Place where
  offset := p.offset + c.utf8Size
  point := if c = '\n' then ⟨p.point.row + 1, 0⟩
    else ⟨p.point.row, p.point.column + c.utf8Size⟩

/-- What a piece of text is. -/
inductive Lexeme
  /-- White space and comments. -/
  | gap
  | word
  | number
  | character
  | string
  /-- A string up to the first expression in it. -/
  | opening
  /-- A string between two expressions in it. -/
  | middle
  /-- A string after the last expression in it. -/
  | closing
  | symbol
  deriving Repr, DecidableEq, Inhabited

namespace Lexeme

/-- White space between tokens is ASCII. -/
def isGap (c : Char) : Bool :=
  c = ' ' || (0x09 ≤ c.toNat && c.toNat ≤ 0x0D)

/-- Whether a word may start with the character. -/
def startsWord (c : Char) : Bool :=
  c = '_' || c = '$' || Text.isIdentifierStart c

/-- Whether a word may go on with the character. -/
def continuesWord (c : Char) : Bool :=
  c = '$' || c = '\u00A2' || Text.isIdentifierContinue c

/-- Whether the character is a hexadecimal digit. -/
def isHexDigit (c : Char) : Bool :=
  c.isDigit || ('a' ≤ c && c ≤ 'f') || ('A' ≤ c && c ≤ 'F')

/-! ### Numbers -/

/-- How a number is written. -/
inductive Form
  /-- A character of a class. -/
  | one (isIn : Char → Bool)
  /-- Digits; a single underscore may stand between two. -/
  | digits (isDigit : Char → Bool)
  | seq (first second : Form)
  | either (first second : Form)
  | opt (form : Form)

namespace Form

/-- The places where a run of digits may end: how many characters are before, and what is left. -/
def digitEnds (isDigit : Char → Bool) (count : Nat) : List Char → List (Nat × List Char)
  | [] => []
  | c :: '_' :: rest =>
    if isDigit c then (count + 1, '_' :: rest) :: digitEnds isDigit (count + 2) rest else []
  | c :: rest => if isDigit c then (count + 1, rest) :: digitEnds isDigit (count + 1) rest else []

/-- The places where a number of the form that starts a text may end. -/
def ends : Form → List Char → List (Nat × List Char)
  | one _, [] => []
  | one isIn, c :: rest => if isIn c then [(1, rest)] else []
  | digits isDigit, cs => digitEnds isDigit 0 cs
  | seq first second, cs =>
    (first.ends cs).flatMap fun (m, rest) => (second.ends rest).map fun (n, rest) => (m + n, rest)
  | either first second, cs => first.ends cs ++ second.ends cs
  | opt form, cs => (0, cs) :: form.ends cs

/-- The length of the longest number of the form that starts a text, or zero. -/
def length (form : Form) (cs : List Char) : Nat :=
  (form.ends cs).foldl (fun n (m, _) => max n m) 0

/-- One of some characters. -/
def oneOf (cs : String) : Form := one cs.toList.contains

/-- Digits in base ten. -/
def decimal : Form := digits Char.isDigit

/-- Digits in base sixteen. -/
def hexadecimal : Form := digits isHexDigit

/-- A whole number in base ten, without zeros in front. -/
def whole : Form :=
  either (oneOf "0") (seq (oneOf "123456789") (opt (seq (opt (oneOf "_")) decimal)))

/-- A power of the base. -/
def power (marks : String) : Form :=
  seq (oneOf marks) (seq (opt (oneOf "+-")) decimal)

/-- The letter that marks a type of an integer. -/
def longLetter : Form := opt (oneOf "lL")

/-- A letter that marks a floating-point type. -/
def floatLetter : Form := oneOf "fFdD"

/-- An integer in base two, eight, ten or sixteen. -/
def integer : Form :=
  seq
    (either whole
      (seq (oneOf "0")
        (either (seq (oneOf "xX") hexadecimal)
          (either (seq (oneOf "bB") (digits fun c => c = '0' || c = '1'))
            (seq (opt (oneOf "oO")) (digits fun c => '0' ≤ c && c ≤ '7'))))))
    longLetter

/-- A number with a point, a power of ten or the letter of its type. -/
def floating : Form :=
  either
    (seq
      (either (seq decimal (seq (oneOf ".") (opt decimal))) (seq (oneOf ".") decimal))
      (seq (opt (power "eE")) (opt floatLetter)))
    (seq whole
      (either (seq (power "eEpP") (opt floatLetter)) (seq (opt (power "eE")) floatLetter)))

/-- A number in base sixteen with a point or a power of two. -/
def hexFloating : Form :=
  seq (seq (oneOf "0") (oneOf "xX"))
    (seq
      (either (seq hexadecimal (opt (oneOf ".")))
        (seq (opt hexadecimal) (seq (oneOf ".") hexadecimal)))
      (opt (seq (power "eEpP") (opt floatLetter))))

/-- A number. -/
def number : Form := either integer (either floating hexFloating)

end Form

/-! ### Strings -/

/-- Where a part of a string ends: at the end of the string, or at an expression that is part of
it. -/
inductive StringEnd
  | quote
  | expression
  deriving Repr, DecidableEq

/-- The length of a part of a string, and where it ends.  Strings may run over several lines. -/
def stringLength (count : Nat) : List Char → Option (Nat × StringEnd)
  | [] => none
  | '"' :: _ => some (count + 1, .quote)
  | '\\' :: 'u' :: a :: b :: c :: d :: rest =>
    if [a, b, c, d].all isHexDigit then stringLength (count + 6) rest else none
  | '\\' :: 'x' :: a :: b :: rest =>
    if [a, b].all isHexDigit then stringLength (count + 4) rest else none
  | '\\' :: c :: rest =>
    if c = '\x7b' then some (count + 2, .expression)
    else if c = 'u' || c = 'x' then none
    else stringLength (count + 2) rest
  | _ :: rest => stringLength (count + 1) rest

/-- The length of a part of a text block, which ends with three quotes, and where it ends. -/
def textBlockLength (count : Nat) : List Char → Option (Nat × StringEnd)
  | [] => none
  | '"' :: '"' :: '"' :: _ => some (count + 3, .quote)
  | '\\' :: c :: rest =>
    if c = '\x7b' then some (count + 2, .expression) else textBlockLength (count + 2) rest
  | _ :: rest => textBlockLength (count + 1) rest

/-- The length of the rest of a character literal. -/
def characterLength (count : Nat) : List Char → Option Nat
  | [] => none
  | '\'' :: _ => if count = 0 then none else some (count + 1)
  | '\\' :: _ :: rest => characterLength (count + 2) rest
  | '\n' :: _ => none
  | _ :: rest => characterLength (count + 1) rest

/-- The length of the rest of a comment between marks. -/
def commentLength (count : Nat) : List Char → Option Nat
  | [] => none
  | '*' :: '/' :: _ => some (count + 2)
  | _ :: rest => commentLength (count + 1) rest

/-- The symbols of more than one character, no symbol after one that it starts with. -/
def symbols : List (List Char) :=
  ["@interface", "<<=", "...", "->", "::", "++", "--", "+=", "-=", "*=", "/=", "%=", "&=", "|=",
    "^=", "==", "!=", "<=", "<<", "&&", "||"].map String.toList

/-- The length of a symbol; any character that nothing else starts with is a symbol. -/
def symbolLength (cs : List Char) : Nat :=
  ((symbols.find? (List.isPrefixOf · cs)).map List.length).getD 1

/-- A string that an expression stands in: whether it is a text block, and how many braces of the
expression are open. -/
structure Template where
  isBlock : Bool
  depth : Nat := 0
  deriving Repr, DecidableEq

/-- The string that goes on with the next brace, if the innermost expression ends there. -/
def resumed? : List Template → Option Template
  | t :: _ => if t.depth = 0 then some t else none
  | [] => none

/-- The strings that are open after a piece of text. -/
def templatesAfter (lexeme : Lexeme) (text : List Char) (templates : List Template) :
    List Template :=
  match lexeme, templates with
  | .opening, ts => ⟨text.take 3 = ['"', '"', '"'], 0⟩ :: ts
  | .closing, _ :: ts => ts
  | .symbol, t :: ts =>
    if text = ['\x7b'] then { t with depth := t.depth + 1 } :: ts
    else if text = ['\x7d'] then { t with depth := t.depth - 1 } :: ts
    else t :: ts
  | _, ts => ts

/-- The part of a string that starts a text: what it is at either end, and its length. -/
def stringPart (isBlock : Bool) (atQuote atExpression : Lexeme) (skipped : Nat)
    (cs : List Char) : Lexeme × Nat :=
  match if isBlock then textBlockLength skipped cs else stringLength skipped cs with
  | some (count, .quote) => (atQuote, count)
  | some (count, .expression) => (atExpression, count)
  | none => (.symbol, 0)

/-- The first piece of a text that starts with a character: what it is, and how many characters
belong to it after the first. -/
def first (templates : List Template) (c : Char) (rest : List Char) : Lexeme × Nat :=
  if isGap c then (.gap, 0)
  else if startsWord c then (.word, (rest.takeWhile continuesWord).length)
  else match c, rest with
    | '/', '/' :: more => (.gap, 1 + (more.takeWhile (· ≠ '\n')).length)
    | '/', '*' :: more =>
      match commentLength 0 more with
      | some count => (.gap, 1 + count)
      | none => (.symbol, 0)
    | '"', '"' :: '"' :: more => stringPart true .string .opening 2 more
    | '"', more => stringPart false .string .opening 0 more
    | '\x7d', more =>
      match resumed? templates with
      | some t => stringPart t.isBlock .closing .middle 0 more
      | none => (.symbol, 0)
    | '\'', more =>
      match characterLength 0 more with
      | some count => (.character, count)
      | none => (.symbol, 0)
    | c, more =>
      let count := Form.number.length (c :: more)
      if count ≠ 0 then (.number, count - 1) else (.symbol, symbolLength (c :: more) - 1)

end Lexeme

/-- A token with its place. -/
structure Token where
  lexeme : Lexeme
  text : String
  extent : Extent
  /-- Whether the token starts where the one before it ends. -/
  glued : Bool
  /-- Whether the token is the parenthesis before the parameters of a lambda expression. -/
  opensParameters : Bool := false
  deriving Repr, Inhabited

namespace Token

/-- Adds the tokens of a text to those before it; `templates` are the strings around. -/
def scanFrom (place : Place) (glued : Bool) (templates : List Lexeme.Template)
    (found : Array Token) : List Char → Array Token
  | [] => found
  | c :: rest =>
    let (lexeme, count) := Lexeme.first templates c rest
    let text := c :: rest.take count
    let stop := text.foldl Place.after place
    if lexeme = .gap then scanFrom stop false templates found (rest.drop count)
    else
      let extent := ⟨place.offset, stop.offset, place.point, stop.point⟩
      scanFrom stop true (Lexeme.templatesAfter lexeme text templates)
        (found.push ⟨lexeme, String.ofList text, extent, glued, false⟩) (rest.drop count)
termination_by cs => cs.length
decreasing_by all_goals simp only [List.length_cons, List.length_drop]; omega

/-- Puts a token before others and tells it whether it opens parameters.  The stack says of the
closing parentheses whose partners are still to come whether an arrow follows them. -/
def place (t : Token) : List Token × List Bool → List Token × List Bool
  | (found, stack) =>
    if t.text == ")" then
      (t :: found, ((found.head?.map (·.text)) == some "->") :: stack)
    else if t.text == "(" then
      ({ t with opensParameters := stack.headD false } :: found, stack.tail)
    else (t :: found, stack)

/-- The byte order mark, which may stand before the first token. -/
def byteOrderMark : Char := '\uFEFF'

/-- The tokens of a text. -/
def scan (text : String) : List Token :=
  let tokens := match text.toList with
    | [] => #[]
    | c :: rest =>
      if c = byteOrderMark then scanFrom (Place.after {} c) false [] #[] rest
      else scanFrom {} false [] #[] (c :: rest)
  (tokens.foldr place ([], [])).1

end Token

end ModifierLint.Java
