/-
# Environment files

An environment file has one binding per line: a name, an equality sign and a value, which may stand
between quotes, and comments.  A name alone is bound to nothing.  A reference `${NAME}` or
`${NAME:-default}` in a value is replaced by what the name is bound to at that point.

Whoever needs such a file is given a reader (`EnvFile.Reader`); the program gives `EnvFile.parse`.

Readers of parts of a line answer with what follows the part or, if they fail, with the text from
where they stopped: the rest of that line is skipped, and `EnvFile.unreadable` keeps its number.
-/
import ModifierLint.Text.Blank
import ModifierLint.Keyed

namespace ModifierLint

/-- A name and its value, if it has one. -/
structure EnvBinding where
  name : List Char
  value : Option (List Char)
  deriving Repr, DecidableEq

/-- What an environment file says. -/
structure EnvFile where
  /-- What the names are bound to; a later binding of a name replaces an earlier one. -/
  bindings : List (String × Option String) := []
  /-- The numbers of the lines on which something begins that is no binding. -/
  unreadable : List Nat := []
  deriving Inhabited

namespace EnvFile

/-- What makes a text into an environment file, where the environment is known. -/
abbrev Reader := List (String × String) → String → EnvFile

/-- A part of a line and what follows it, or the text from where reading stopped. -/
abbrev Reading (α : Type) := Except (List Char) (α × List Char)

/-- Whether the character is a blank inside a line. -/
def isGap (c : Char) : Bool :=
  Text.isBlank c && c != '\n' && c != '\r'

/-- Whether a line ends here. -/
def isLineEnd (c : Char) : Bool :=
  c = '\n' || c = '\r'

/-! ## Values -/

/-- The text up to a closing quote, and what follows it.  A backslash takes the meaning of the
character behind it away. -/
def untilQuote (quote : Char) (text : List Char) : List Char → Option (List Char × List Char)
  | '\\' :: c :: rest => untilQuote quote (c :: '\\' :: text) rest
  | c :: rest =>
    if c = quote then some (text.reverse, rest) else untilQuote quote (c :: text) rest
  | [] => none

/-- The character that an escape between quotes stands for; between single quotes only a backslash
and the quote are escaped. -/
def escaped? (quote c : Char) : Option Char :=
  if c = '\\' || c = '\'' then some c
  else if quote = '\'' then none
  else
    [('\"', '\"'), ('a', '\x07'), ('b', '\x08'), ('f', '\x0c'), ('n', '\n'), ('r', '\r'),
      ('t', '\t'), ('v', '\x0b')].lookup c

/-- Replaces the escapes of a value between quotes. -/
def unescape (quote : Char) : List Char → List Char
  | '\\' :: c :: rest =>
    match escaped? quote c with
    | some d => d :: unescape quote rest
    | none => '\\' :: unescape quote (c :: rest)
  | c :: rest => c :: unescape quote rest
  | [] => []
termination_by s => s.length

/-- A value without the comment behind it: blanks and a number sign begin one. -/
def withoutComment : List Char → List Char
  | [] => []
  | c :: rest =>
    if Text.isBlank c && (rest.dropWhile Text.isBlank).head? = some '#' then []
    else c :: withoutComment rest

/-- A value between quotes, behind the first of them. -/
def quotedValue (quote : Char) (s : List Char) : Reading (List Char) :=
  match untilQuote quote [] s with
  | some (text, rest) => .ok (unescape quote text, rest)
  | none => .error (quote :: s)

/-- A value behind its equality sign.  The blanks in front of it may begin a comment. -/
def value (s : List Char) : Reading (List Char) :=
  match s.dropWhile isGap with
  | '\'' :: rest => quotedValue '\'' rest
  | '\"' :: rest => quotedValue '\"' rest
  | _ =>
    let written := s.takeWhile (!isLineEnd ·)
    .ok (Text.stripWhere Text.isBlank (withoutComment written), s.dropWhile (!isLineEnd ·))

/-! ## Lines -/

/-- What follows the word that may stand in front of a name. -/
def withoutExport (s : List Char) : List Char :=
  match s with
  | 'e' :: 'x' :: 'p' :: 'o' :: 'r' :: 't' :: c :: rest =>
    if isGap c then rest.dropWhile isGap else s
  | _ => s

/-- The name of a binding; there is none in front of a comment. -/
def name : List Char → Reading (Option (List Char))
  | '#' :: rest => .ok (none, '#' :: rest)
  | '\'' :: rest =>
    match rest.takeWhile (· != '\''), rest.dropWhile (· != '\'') with
    | [], _ => .error ('\'' :: rest)
    | _, [] => .error ('\'' :: rest)
    | text, _ :: after => .ok (some text, after)
  | s =>
    let isName (c : Char) : Bool := !(c = '=' || c = '#' || Text.isBlank c)
    if (s.takeWhile isName).isEmpty then .error s
    else .ok (some (s.takeWhile isName), s.dropWhile isName)

/-- The end of a line with a comment in front of it; nothing else may be there. -/
def endOfLine (s : List Char) : Reading Unit :=
  let behind := match s.dropWhile isGap with
    | '#' :: rest => rest.dropWhile (!isLineEnd ·)
    | s => s
  match behind with
  | [] => .ok ((), [])
  | c :: rest => if isLineEnd c then .ok ((), rest) else .error s

/-- A line: a binding, or nothing but a comment. -/
def line (s : List Char) : Except (List Char) (Option EnvBinding × List Char) := do
  let (name, rest) ← name (withoutExport s)
  let (value, rest) ← match rest.dropWhile isGap with
    | '=' :: rest => (fun (v, rest) => (some v, rest)) <$> value rest
    | rest => pure (none, rest)
  let ((), rest) ← endOfLine rest
  return (name.map (⟨·, value⟩), rest)

/-- What follows the line that a text begins in. -/
def afterLine (s : List Char) : List Char :=
  (s.dropWhile (!isLineEnd ·)).drop 1

/-- The lines of a text that are not empty, each with the number of the first line behind the one
before it; `number` is that of the text's first line. -/
def lines (number : Nat) : Nat → List Char → List (Nat × Except Unit (Option EnvBinding))
  | 0, _ => []
  | fuel + 1, s =>
    let next (rest : List Char) : Nat :=
      number + (s.take (s.length - rest.length)).countP isLineEnd
    match s.dropWhile Text.isBlank with
    | [] => []
    | c :: text =>
      match line (c :: text) with
      | .ok (binding, rest) => (number, .ok binding) :: lines (next rest) fuel rest
      | .error stopped =>
        let rest := afterLine stopped
        (number, .error ()) :: lines (next rest) fuel rest

/-! ## References -/

/-- A reference behind its opening brace: the name, the default, and what follows. -/
def reference? (s : List Char) : Option (List Char × Option (List Char) × List Char) :=
  let name := s.takeWhile fun c => c != '\x7d' && c != ':'
  match s.drop name.length with
  | '\x7d' :: rest => some (name, none, rest)
  | ':' :: '-' :: rest =>
    match rest.dropWhile (· != '\x7d') with
    | _ :: after => some (name, some (rest.takeWhile (· != '\x7d')), after)
    | [] => none
  | _ => none

/-- Replaces the references in a value.  A default stands in for a name that is not bound, and a
name that is bound to nothing is replaced by nothing. -/
def resolve (bound : String → Option (Option String)) : Nat → List Char → List Char
  | 0, s => s
  | _ + 1, [] => []
  | fuel + 1, c :: rest =>
    match c, rest with
    | '$', '\x7b' :: inner =>
      match reference? inner with
      | some (name, default, after) =>
        let replacement := match bound (String.ofList name) with
          | some text => (text.getD "").toList
          | none => default.getD []
        replacement ++ resolve bound fuel after
      | none => c :: resolve bound fuel rest
    | _, _ => c :: resolve bound fuel rest

/-- Adds a binding.  References in its value see the bindings before it and, where a name has none,
the environment. -/
def bind (environment : List (String × String)) (file : EnvFile) (b : EnvBinding) : EnvFile :=
  let bound (n : String) : Option (Option String) :=
    (Keyed.find? (· == n) file.bindings).or ((environment.lookup n).map some)
  let value := b.value.map fun v => String.ofList (resolve bound (v.length + 1) v)
  { file with bindings := Keyed.put (· == ·) (String.ofList b.name) value file.bindings }

/-- Reads an environment file. -/
def parse : Reader := fun environment text =>
  let s := text.toList
  (lines 1 (s.length + 1) s).foldl (fun file (number, read) =>
    match read with
    | .ok (some b) => file.bind environment b
    | .ok none => file
    | .error () => { file with unreadable := file.unreadable ++ [number] }) {}

/-- The complaint about a line that is no binding. -/
def complaint (number : Nat) : String :=
  "python-dotenv could not parse statement starting at line " ++ Nat.repr number

/-- The complaints about a file. -/
def complaints (file : EnvFile) : List String :=
  file.unreadable.map complaint

end EnvFile

end ModifierLint
