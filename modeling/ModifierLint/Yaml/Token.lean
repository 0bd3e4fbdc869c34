/-
# YAML tokens

Indentation is made explicit: block collections get a token at their start and at their end.  A key
is recognised only by the colon behind it, so the scanner remembers where a key may have begun, one
place per level of brackets, and puts the tokens for the key in front of it afterwards.

`Token.scan` always answers.  A text that is wrong somewhere ends in a `broken` token.
-/
import ModifierLint.Yaml.Scalar
import ModifierLint.Text.Utf8

namespace ModifierLint.Yaml

/-- A directive at the start of a document. -/
inductive Directive
  | version (major minor : Nat)
  | tag (handle uri : String)
  | other
  deriving Repr, DecidableEq

/-- A tag as written: with a handle, or in full. -/
structure TagName where
  handle : Option String
  suffix : String
  deriving Repr, DecidableEq

/-- A token. -/
inductive Token
  | directive (d : Directive)
  | documentStart
  | documentEnd
  | sequenceStart
  | mappingStart
  | blockEnd
  | flowSequenceStart
  | flowSequenceEnd
  | flowMappingStart
  | flowMappingEnd
  | blockEntry
  | flowEntry
  | key
  | value
  | alias (name : String)
  | anchor (name : String)
  | tag (name : TagName)
  | scalar (text : String) (plain : Bool)
  | streamEnd
  | broken (fault : Fault)
  deriving Repr, DecidableEq

namespace Token

/-- A place where a key may have begun; `position` counts tokens. -/
structure PossibleKey where
  position : Nat
  required : Bool
  index : Nat
  line : Nat
  column : Nat

/-- The state of the scanner. -/
structure Scanner where
  cursor : Cursor
  tokens : Array Token := #[]
  /-- How many brackets are open. -/
  flow : Nat := 0
  indent : Int := -1
  indents : List Int := []
  /-- Whether a key may begin here. -/
  allowed : Bool := true
  /-- Possible keys by level of brackets. -/
  keys : List (Nat × PossibleKey) := []

namespace Scanner

/-- Adds a token. -/
def push (s : Scanner) (t : Token) : Scanner :=
  { s with tokens := s.tokens.push t }

/-- The greatest distance between the start of a key and its colon. -/
def longestKey : Nat := 1024

/-- Drops the possible keys that are too far back; one that had to be a key is an error. -/
def dropStale (s : Scanner) : Except Fault Scanner :=
  let stale (k : PossibleKey) : Bool :=
    k.line != s.cursor.line || s.cursor.index - k.index > longestKey
  if s.keys.any fun (_, k) => stale k && k.required then .error .malformed
  else .ok { s with keys := s.keys.filter fun (_, k) => !stale k }

/-- Drops the possible key of the level; one that had to be a key is an error. -/
def dropKey (s : Scanner) : Except Fault Scanner :=
  if s.keys.any fun (level, k) => level == s.flow && k.required then .error .malformed
  else .ok { s with keys := s.keys.filter fun (level, _) => level != s.flow }

/-- Remembers that a key may begin here. -/
def saveKey (s : Scanner) : Except Fault Scanner :=
  if s.allowed then do
    let required := s.flow = 0 && s.indent = s.cursor.column
    let s ← s.dropKey
    let k : PossibleKey :=
      ⟨s.tokens.size, required, s.cursor.index, s.cursor.line, s.cursor.column⟩
    return { s with keys := (s.flow, k) :: s.keys }
  else .ok s

/-- Ends the block collections that are indented deeper than a column. -/
def unwindFrom (column : Int) : List Int → Scanner → Scanner
  | [], s => s
  | outer :: rest, s =>
    if s.indent > column then
      unwindFrom column rest { s.push .blockEnd with indent := outer, indents := rest }
    else s

/-- Ends the block collections that are indented deeper than a column; brackets ignore columns. -/
def unwind (s : Scanner) (column : Int) : Scanner :=
  if s.flow = 0 then unwindFrom column s.indents s else s

/-- Begins a block collection at a column unless one is indented there already. -/
def indentTo (s : Scanner) (column : Int) (position : Nat) (opening : Token) : Scanner :=
  if s.indent < column then
    { s with
      indents := s.indent :: s.indents
      indent := column
      tokens := s.tokens.insertIdxIfInBounds position opening }
  else s

/-- Steps to the next token; a new line outside brackets may begin with a key. -/
def toNextToken : Nat → Scanner → Scanner
  | 0, s => s
  | fuel + 1, s =>
    let c := s.cursor.skipSpaces.skipComment
    if isBreak c.here then
      toNextToken fuel { s with cursor := c.lineBreak.2, allowed := s.allowed || s.flow = 0 }
    else { s with cursor := c }

/-! ## Parts of tokens -/

/-- The characters of a tag's address. -/
def isUriChar (c : Char) : Bool :=
  c.isAlphanum || "-;/?:@&=+$,_.!~*'()[]%".toList.contains c

/-- The octets that percent signs write. -/
def uriOctets : Nat → List UInt8 → Cursor → Except Fault (List UInt8 × Cursor)
  | 0, octets, c => .ok (octets.reverse, c)
  | fuel + 1, octets, c =>
    if c.here ≠ '%' then .ok (octets.reverse, c)
    else
      let digits := (c.rest.drop 1).take 2
      match hexadecimal? digits with
      | none => .error .malformed
      | some n =>
        if digits.length < 2 then .error .malformed
        else uriOctets fuel (UInt8.ofNat n :: octets) (c.skip 3)

/-- The address of a tag. -/
def uri (text : List Char) : Nat → Cursor → Except Fault (List Char × Cursor)
  | 0, c => .ok (text, c)
  | fuel + 1, c =>
    if !isUriChar c.here then
      if text.isEmpty then .error .malformed else .ok (text, c)
    else if c.here = '%' then do
      let (octets, c) ← uriOctets (c.rest.length + 1) [] c
      match Text.Utf8.decode octets with
      | .ok cs => uri (text ++ cs) fuel c
      | .error _ => .error .malformed
    else uri (text ++ [c.here]) fuel c.step

/-- The address of a tag. -/
def tagUri (c : Cursor) : Except Fault (String × Cursor) :=
  (uri [] (c.rest.length + 1) c).map fun (cs, c) => (String.ofList cs, c)

/-- The handle of a tag: `!`, `!!` or a name between exclamation marks. -/
def tagHandle (c : Cursor) : Except Fault (String × Cursor) :=
  if c.here ≠ '!' then .error .malformed
  else
    let inner := c.step
    if inner.here = ' ' then .ok ("!", inner)
    else
      let (name, after) := inner.takeWhile isNameChar
      if after.here = '!' then .ok ("!" ++ String.ofList name ++ "!", after.step)
      else .error .malformed

/-- A tag. -/
def tagName (c : Cursor) : Except Fault (TagName × Cursor) := do
  let next := c.peek 1
  let (name, c) ←
    if next = '<' then do
      let (suffix, c) ← tagUri (c.skip 2)
      if c.here ≠ '>' then .error .malformed
      else pure (⟨none, suffix⟩, c.step)
    else if isWordEnd next then pure (⟨none, "!"⟩, c.step)
    else do
      let word := (c.rest.drop 1).takeWhile fun d => !(d = ' ' || isLineEnd d)
      let (handle, c) ← if word.contains '!' then tagHandle c else pure ("!", c.step)
      let (suffix, c) ← tagUri c
      pure (⟨some handle, suffix⟩, c)
  if c.here = ' ' || isLineEnd c.here then return (name, c) else .error .malformed

/-- The name of an anchor or alias after its mark. -/
def anchorName (c : Cursor) : Except Fault (String × Cursor) :=
  let (name, c) := c.takeWhile isNameChar
  if name.isEmpty then .error .malformed
  else if isWordEnd c.here || "?:,]\x7d%@`".toList.contains c.here then .ok (String.ofList name, c)
  else .error .malformed

/-- The number in ASCII digits. -/
def digits (c : Cursor) : Except Fault (Nat × Cursor) :=
  let (ds, c) := c.takeWhile Char.isDigit
  if ds.isEmpty then .error .malformed
  else .ok (ds.foldl (fun n d => n * 10 + (d.toNat - 48)) 0, c)

/-- A directive after its percent sign. -/
def directive (c : Cursor) : Except Fault (Directive × Cursor) := do
  let (name, c) := c.takeWhile isNameChar
  if name.isEmpty || !(c.here = ' ' || isLineEnd c.here) then .error .malformed
  let (d, c) ←
    if String.ofList name = "YAML" then do
      let (major, c) ← digits c.skipSpaces
      if c.here ≠ '.' then .error .malformed
      let (minor, c) ← digits c.step
      if c.here = ' ' || isLineEnd c.here then pure (Directive.version major minor, c)
      else .error .malformed
    else if String.ofList name = "TAG" then do
      let (handle, c) ← tagHandle c.skipSpaces
      if c.here ≠ ' ' then .error .malformed
      let (address, c) ← tagUri c.skipSpaces
      if c.here = ' ' || isLineEnd c.here then pure (Directive.tag handle address, c)
      else .error .malformed
    else pure (Directive.other, c.skipWhile (!isLineEnd ·))
  return (d, ← c.restOfLine)

/-! ## Tokens -/

/-- Adds a token of `n` characters. -/
def mark (s : Scanner) (t : Token) (n : Nat) : Scanner :=
  { s.push t with cursor := s.cursor.skip n }

/-- A token that ends all block collections and stands outside of documents. -/
def outside (s : Scanner) : Except Fault Scanner := do
  let s ← (s.unwind (-1)).dropKey
  return { s with allowed := false }

/-- An opening bracket; it may begin a key, and so may what follows. -/
def openBracket (s : Scanner) (t : Token) : Except Fault Scanner := do
  let s ← s.saveKey
  return { s with flow := s.flow + 1, allowed := true }.mark t 1

/-- A closing bracket. -/
def closeBracket (s : Scanner) (t : Token) : Except Fault Scanner := do
  let s ← s.dropKey
  return { s with flow := s.flow - 1, allowed := false }.mark t 1

/-- A dash before an entry. -/
def entry (s : Scanner) : Except Fault Scanner := do
  if s.flow = 0 && !s.allowed then .error .malformed
  let s := if s.flow = 0 then s.indentTo s.cursor.column s.tokens.size .sequenceStart else s
  let s ← s.dropKey
  return { s with allowed := true }.mark .blockEntry 1

/-- A question mark before a key. -/
def complexKey (s : Scanner) : Except Fault Scanner := do
  if s.flow = 0 && !s.allowed then .error .malformed
  let s := if s.flow = 0 then s.indentTo s.cursor.column s.tokens.size .mappingStart else s
  let s ← s.dropKey
  return { s with allowed := s.flow = 0 }.mark .key 1

/-- A colon before a value; it makes a key of what may be one. -/
def colon (s : Scanner) : Except Fault Scanner := do
  match s.keys.lookup s.flow with
  | some k =>
    let s := { s with
      keys := s.keys.filter fun (level, _) => level != s.flow
      tokens := s.tokens.insertIdxIfInBounds k.position .key }
    let s := if s.flow = 0 then s.indentTo k.column k.position .mappingStart else s
    return { s with allowed := false }.mark .value 1
  | none =>
    if s.flow = 0 && !s.allowed then .error .malformed
    let s := if s.flow = 0 then s.indentTo s.cursor.column s.tokens.size .mappingStart else s
    let s ← s.dropKey
    return { s with allowed := s.flow = 0 }.mark .value 1

/-- A token that may begin a key but that no key follows. -/
def item (s : Scanner) (read : Cursor → Except Fault (Token × Cursor)) :
    Except Fault Scanner := do
  let s ← s.saveKey
  let (t, c) ← read s.cursor
  return { s.push t with cursor := c, allowed := false }

/-- A block scalar; a key may follow. -/
def blockScalar (s : Scanner) (folded : Bool) : Except Fault Scanner := do
  let s ← s.dropKey
  let (text, c) ← block folded s.indent s.cursor.step
  return { s.push (.scalar (String.ofList text) false) with cursor := c, allowed := true }

/-- A plain scalar; a key may follow behind a line break. -/
def plainScalar (s : Scanner) : Except Fault Scanner := do
  let s ← s.saveKey
  let (text, broke, c) :=
    plain (s.flow != 0) (s.indent + 1) [] [] false (s.cursor.rest.length + 1) s.cursor
  return { s.push (.scalar (String.ofList text) true) with cursor := c, allowed := broke }

/-- Whether a plain scalar can begin here. -/
def beginsPlain (s : Scanner) : Bool :=
  let c := s.cursor.here
  if isWordEnd c then false
  else if "-?:,[]\x7b\x7d#&*!|>'\"%@`".toList.contains c then
    !isWordEnd (s.cursor.peek 1) && (c = '-' || (s.flow = 0 && (c = '?' || c = ':')))
  else true

/-- Scans one token, with the tokens that indentation puts in front of it. -/
def next (s : Scanner) : Except Fault Scanner := do
  let s ← (toNextToken (s.cursor.rest.length + 1) s).dropStale
  let s := s.unwind s.cursor.column
  let c := s.cursor.here
  let spaced := isWordEnd (s.cursor.peek 1)
  if c = endMark then
    let s ← s.outside
    return s.push .streamEnd
  else if c = '%' && s.cursor.column = 0 then
    let s ← s.outside
    let (d, cursor) ← directive s.cursor.step
    return { s.push (.directive d) with cursor }
  else if s.cursor.column = 0 && s.cursor.atMarker '-' then
    return (← s.outside).mark .documentStart 3
  else if s.cursor.column = 0 && s.cursor.atMarker '.' then
    return (← s.outside).mark .documentEnd 3
  else if c = '[' then s.openBracket .flowSequenceStart
  else if c = '\x7b' then s.openBracket .flowMappingStart
  else if c = ']' then s.closeBracket .flowSequenceEnd
  else if c = '\x7d' then s.closeBracket .flowMappingEnd
  else if c = ',' then
    let s ← s.dropKey
    return { s with allowed := true }.mark .flowEntry 1
  else if c = '-' && spaced then s.entry
  else if c = '?' && (s.flow ≠ 0 || spaced) then s.complexKey
  else if c = ':' && (s.flow ≠ 0 || spaced) then s.colon
  else if c = '*' then
    s.item fun c => (anchorName c.step).map fun (name, c) => (.alias name, c)
  else if c = '&' then
    s.item fun c => (anchorName c.step).map fun (name, c) => (.anchor name, c)
  else if c = '!' then s.item fun c => (tagName c).map fun (name, c) => (.tag name, c)
  else if c = '|' && s.flow = 0 then s.blockScalar false
  else if c = '>' && s.flow = 0 then s.blockScalar true
  else if c = '\'' || c = '\"' then
    s.item fun cursor => (quoted c [] (cursor.rest.length + 1) cursor.step).map
      fun (text, cursor) => (.scalar (String.ofList text) false, cursor)
  else if s.beginsPlain then s.plainScalar
  else .error .malformed

/-- The fault that counts, where `behind` is what is wrong behind the text. -/
def faultOf (behind : Option Fault) : Fault → Fault
  | .unclosed => behind.getD .malformed
  | f => f

/-- Scans up to the end of the text or the first mistake.  What is wrong behind the text is noticed
by a token that ends with it. -/
def run (behind : Option Fault) : Nat → Scanner → List Token
  | 0, s => s.tokens.toList ++ [.broken .malformed]
  | fuel + 1, s =>
    match s.next, behind with
    | .error f, _ => s.tokens.toList ++ [.broken (faultOf behind f)]
    | .ok t, some f =>
      if t.cursor.rest.length < 2 then s.tokens.toList ++ [.broken f] else run behind fuel t
    | .ok t, none =>
      if t.tokens.back? = some .streamEnd then t.tokens.toList else run behind fuel t

end Scanner

/-- The tokens of a text. -/
def scan (source : Source) : List Token :=
  let ⟨text, behind⟩ := source.readable
  let c : Cursor := { rest := text }
  let c := if c.here = byteOrderMark then c.step else c
  Scanner.run behind (text.length + 2) { cursor := c }

end Token

end ModifierLint.Yaml
