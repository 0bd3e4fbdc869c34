/-
# Scalars

Scalars are written plain, between quotes, or as indented blocks.  A line break inside a plain or
quoted scalar is folded into a space, and every further one stands for itself; a block either keeps
its line breaks (`|`) or folds those between lines that do not start with white space (`>`).
-/
import ModifierLint.Yaml.Cursor
import ModifierLint.Text.Decimal

namespace ModifierLint.Yaml

/-- Whether the character is a blank inside a line. -/
def isGap (c : Char) : Bool :=
  c = ' ' || c = '\t'

/-- What a folded line break and the breaks after it stand for. -/
def fold (first breaks : List Char) : List Char :=
  (if first ≠ ['\n'] then first else if breaks.isEmpty then [' '] else []) ++ breaks

/-! ## Plain scalars -/

/-- The length of the part of a plain scalar that stands on the line, `flow` inside brackets. -/
def plainLength (flow : Bool) : List Char → Nat
  | [] => 0
  | c :: rest =>
    let next := rest.headD endMark
    let stops := isWordEnd c
      || (c = ':' && (isWordEnd next || (flow && ",[]\x7b\x7d".toList.contains next)))
      || (flow && ",?[]\x7b\x7d".toList.contains c)
    if stops then 0 else plainLength flow rest + 1

/-- The line breaks and spaces after a folded break; `none` if a document ends here. -/
def plainBreaks : Nat → List Char → Cursor → Option (List Char) × Cursor
  | 0, breaks, c => (some breaks, c)
  | fuel + 1, breaks, c =>
    if c.here = ' ' then plainBreaks fuel breaks c.step
    else if isBreak c.here then
      let (b, c) := c.lineBreak
      if c.atSeparator then (none, c) else plainBreaks fuel (breaks ++ b) c
    else (some breaks, c)

/-- The gap after a part of a plain scalar: what it stands for, and whether it breaks a line. -/
def plainGap (c : Cursor) : List Char × Bool × Cursor :=
  let (spaces, c) := c.takeWhile (· = ' ')
  if isBreak c.here then
    let (first, c) := c.lineBreak
    if c.atSeparator then ([], true, c)
    else
      match plainBreaks (c.rest.length + 1) [] c with
      | (none, c) => ([], true, c)
      | (some breaks, c) => (fold first breaks, true, c)
  else (spaces, false, c)

/-- A plain scalar: its text, whether the scan ended behind a line break, and the place behind. -/
def plain (flow : Bool) (indent : Int) (gap : List Char) (text : List Char) (broke : Bool) :
    Nat → Cursor → List Char × Bool × Cursor
  | 0, c => (text, broke, c)
  | fuel + 1, c =>
    let length := if c.here = '#' then 0 else plainLength flow c.rest
    if length = 0 then (text, broke, c)
    else
      let text := text ++ gap ++ c.rest.take length
      let (gap, broke, c) := plainGap (c.skip length)
      if gap.isEmpty || c.here = '#' || (!flow && (c.column : Int) < indent) then (text, broke, c)
      else plain flow indent gap text broke fuel c

/-! ## Quoted scalars -/

/-- The character that a one-letter escape stands for. -/
def escape? (c : Char) : Option Char :=
  [('0', '\x00'), ('a', '\x07'), ('b', '\x08'), ('t', '\t'), ('\t', '\t'), ('n', '\n'),
    ('v', '\x0b'), ('f', '\x0c'), ('r', '\r'), ('e', '\x1b'), (' ', ' '), ('\"', '\"'),
    ('\\', '\\'), ('/', '/'), ('N', '\u0085'), ('_', '\u00A0'), ('L', '\u2028'),
    ('P', '\u2029')].lookup c

/-- The number of digits of a numeric escape. -/
def escapeDigits? (c : Char) : Option Nat :=
  [('x', 2), ('u', 4), ('U', 8)].lookup c

/-- The value of ASCII hexadecimal digits. -/
def hexadecimal? (ds : List Char) : Option Nat :=
  ds.foldlM (fun n d =>
    if d.toNat < 0x80 then (Text.baseDigit? 16 d).map (n * 16 + ·) else none) 0

/-- The line breaks inside a quoted scalar. -/
def quotedBreaks : Nat → List Char → Cursor → Except Fault (List Char × Cursor)
  | 0, breaks, c => .ok (breaks, c)
  | fuel + 1, breaks, c =>
    if c.atSeparator then .error .malformed
    else
      let c := c.skipWhile isGap
      if isBreak c.here then
        let (b, c) := c.lineBreak
        quotedBreaks fuel (breaks ++ b) c
      else .ok (breaks, c)

/-- An escape after its backslash. -/
def quotedEscape (c : Cursor) : Except Fault (List Char × Cursor) :=
  match escape? c.here, escapeDigits? c.here with
  | some d, _ => .ok ([d], c.step)
  | none, some count =>
    let digits := (c.rest.drop 1).take count
    match hexadecimal? digits with
    | none => .error .malformed
    | some n =>
      if digits.length < count then .error .malformed
      else if n > 0x10FFFF then .error .codePoint
      else .ok ([Char.ofNat n], c.skip (count + 1))
  | none, none =>
    if isBreak c.here then quotedBreaks (c.rest.length + 1) [] c.lineBreak.2
    else .error .malformed

/-- A scalar after its opening quote. -/
def quoted (quote : Char) (text : List Char) : Nat → Cursor → Except Fault (List Char × Cursor)
  | 0, _ => .error .malformed
  | fuel + 1, c =>
    let d := c.here
    if d = quote then
      if quote = '\'' && c.peek 1 = '\'' then quoted quote (text ++ ['\'']) fuel (c.skip 2)
      else .ok (text, c.step)
    else if d = endMark then .error .unclosed
    else if isGap d || isBreak d then
      let (gap, c) := c.takeWhile isGap
      if isBreak c.here then do
        let (first, c) := c.lineBreak
        let (breaks, c) ← quotedBreaks (c.rest.length + 1) [] c
        quoted quote (text ++ fold first breaks) fuel c
      else quoted quote (text ++ gap) fuel c
    else if quote = '\"' && d = '\\' then do
      let (cs, c) ← quotedEscape c.step
      quoted quote (text ++ cs) fuel c
    else quoted quote (text ++ [d]) fuel c.step

/-! ## Block scalars -/

/-- What happens to the line breaks at the end of a block. -/
inductive Chomping
  | strip
  | clip
  | keep
  deriving Repr, DecidableEq

/-- How the end of a block is treated, if the header says so. -/
def chomping? (c : Char) : Option Chomping :=
  if c = '+' then some .keep else if c = '-' then some .strip else none

/-- The indentation that a header gives, if it does. -/
def blockIndent (c : Cursor) : Except Fault (Option Nat × Cursor) :=
  if c.here.isDigit then
    if c.here = '0' then .error .malformed else .ok (some (c.here.toNat - 48), c.step)
  else .ok (none, c)

/-- The header of a block: the two indicators in either order. -/
def blockHeader (c : Cursor) : Except Fault (Chomping × Option Nat × Cursor) := do
  let (chomping, increment, c) ← match chomping? c.here with
    | some chomping => do
      let (increment, c) ← blockIndent c.step
      pure (chomping, increment, c)
    | none => do
      let (increment, c) ← blockIndent c
      match increment, chomping? c.here with
      | some _, some chomping => pure (chomping, increment, c.step)
      | _, _ => pure (.clip, increment, c)
  if c.here = ' ' || isLineEnd c.here then return (chomping, increment, c)
  else .error .malformed

/-- The empty lines before a block and the deepest indentation among them. -/
def blockLead (breaks : List Char) (deepest : Nat) : Nat → Cursor → List Char × Nat × Cursor
  | 0, c => (breaks, deepest, c)
  | fuel + 1, c =>
    if c.here = ' ' then
      let c := c.step
      blockLead breaks (max deepest c.column) fuel c
    else if isBreak c.here then
      let (b, c) := c.lineBreak
      blockLead (breaks ++ b) deepest fuel c
    else (breaks, deepest, c)

/-- Steps over indentation up to a column. -/
def indentTo (column : Nat) : Nat → Cursor → Cursor
  | 0, c => c
  | fuel + 1, c =>
    if c.column < column && c.here = ' ' then indentTo column fuel c.step else c

/-- The empty lines inside a block. -/
def blockBreaks (indent : Nat) (breaks : List Char) : Nat → Cursor → List Char × Cursor
  | 0, c => (breaks, c)
  | fuel + 1, c =>
    let c := indentTo indent (indent + 1) c
    if isBreak c.here then
      let (b, c) := c.lineBreak
      blockBreaks indent (breaks ++ b) fuel c
    else (breaks, c)

/-- The lines of a block: the text, the last line break, the breaks after it, and the place. -/
def blockLines (folded : Bool) (indent : Nat) (text breaks : List Char) (last : List Char) :
    Nat → Cursor → List Char × List Char × List Char × Cursor
  | 0, c => (text, last, breaks, c)
  | fuel + 1, c =>
    if c.column ≠ indent || c.here = endMark then (text, last, breaks, c)
    else
      let startsWord := !isGap c.here
      let (line, c) := c.takeWhile (!isLineEnd ·)
      let text := text ++ breaks ++ line
      let (last, c) := c.lineBreak
      let (breaks, c) := blockBreaks indent [] (c.rest.length + 1) c
      if c.column = indent && c.here ≠ endMark then
        let joint :=
          if folded && last = ['\n'] && startsWord && !isGap c.here then
            (if breaks.isEmpty then [' '] else [])
          else last
        blockLines folded indent (text ++ joint) breaks [] fuel c
      else (text, last, breaks, c)

/-- A block scalar after its indicator, inside a collection that is indented by `indent`. -/
def block (folded : Bool) (indent : Int) (c : Cursor) : Except Fault (List Char × Cursor) := do
  let (chomping, increment, c) ← blockHeader c
  let c ← c.restOfLine
  let least := max 1 (indent + 1).toNat
  let (breaks, column, c) := match increment with
    | some n =>
      let column := least + n - 1
      let (breaks, c) := blockBreaks column [] (c.rest.length + 1) c
      (breaks, column, c)
    | none =>
      let (breaks, deepest, c) := blockLead [] 0 (c.rest.length + 1) c
      (breaks, max least deepest, c)
  let (text, last, breaks, c) := blockLines folded column [] breaks [] (c.rest.length + 1) c
  return (match chomping with
    | .strip => text
    | .clip => text ++ last
    | .keep => text ++ last ++ breaks, c)

end ModifierLint.Yaml
