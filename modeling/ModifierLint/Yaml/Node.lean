/-
# YAML nodes

A document is a graph of tagged scalars, sequences and mappings, whose nodes have numbers.
`Graph.ofTokens` reads it from tokens.  An alias stands for the number of the node that its anchor
names, so that a collection can hold itself.  A second document is refused.
-/
import ModifierLint.Yaml.Token
import ModifierLint.Yaml.Tag

namespace ModifierLint.Yaml

/-- A node of a document.  Its parts are named by their numbers. -/
inductive Node
  | scalar (tag : Tag) (text : String)
  | sequence (tag : Tag) (items : List Nat)
  | mapping (tag : Tag) (entries : List (Nat × Nat))
  deriving Repr, DecidableEq

/-- The tag of a node. -/
def Node.tag : Node → Tag
  | scalar tag _ => tag
  | sequence tag _ => tag
  | mapping tag _ => tag

/-- A node that is not written. -/
def Node.empty : Node := scalar .null ""

instance : Inhabited Node := ⟨Node.empty⟩

/-- The nodes of a document by number, and the number of the outermost. -/
structure Graph where
  nodes : Array Node
  root : Nat
  deriving Repr, Inhabited

namespace Graph

/-- The state of the reader. -/
structure Reader where
  tokens : List Token
  handles : List (String × String)
  nodes : Array Node := #[]
  anchors : List (String × Nat) := []

/-- Readers of parts of a document. -/
abbrev Read := StateT Reader (Except Fault)

/-- The handles that every document has. -/
def standardHandles : List (String × String) :=
  [("!", "!"), ("!!", Tag.standard)]

/-- The next token. -/
def peek : Read Token := do
  match (← get).tokens with
  | .broken f :: _ => throw f
  | t :: _ => return t
  | [] => return .streamEnd

/-- Steps over the next token. -/
def advance : Read Unit :=
  modify fun r => { r with tokens := r.tokens.drop 1 }

/-- Steps over an expected token. -/
def expect (t : Token) : Read Unit := do
  if (← peek) = t then advance else throw .malformed

/-- Whether the next token is one of the given. -/
def isNext (ts : List Token) : Read Bool :=
  return ts.contains (← peek)

/-- The tag that is written in front of a node. -/
def writtenTag? : Read (Option TagName) := do
  match ← peek with
  | .tag name => advance; return some name
  | _ => return none

/-- The anchor that is written in front of a node. -/
def writtenAnchor? : Read (Option String) := do
  match ← peek with
  | .anchor name => advance; return some name
  | _ => return none

/-- The anchor and the tag in front of a node, in either order. -/
def properties : Read (Option String × Option TagName) := do
  match ← writtenAnchor? with
  | some anchor => return (some anchor, ← writtenTag?)
  | none =>
    match ← writtenTag? with
    | some name => return (← writtenAnchor?, some name)
    | none => return (none, none)

/-- The full name of a tag. -/
def fullName (name : TagName) : Read String := do
  match name.handle with
  | none => return name.suffix
  | some handle =>
    match (← get).handles.lookup handle with
    | some begin_ => return begin_ ++ name.suffix
    | none => throw .malformed

/-- The tag of a collection: the written one, unless it is `!`. -/
def collectionTag (written : Option String) (usual : Tag) : Tag :=
  match written with
  | none => usual
  | some name => if name = "!" then usual else .ofName name

/-- The tag of a scalar; a plain one, and one with the tag `!`, has the type of its text. -/
def scalarTag (written : Option String) (plain : Bool) (text : String) : Tag :=
  match written with
  | none => if plain then .ofPlain text else .str
  | some name => if name = "!" then .ofPlain text else .ofName name

/-- Adds a node. -/
def add (n : Node) : Read Nat :=
  modifyGet fun r => (r.nodes.size, { r with nodes := r.nodes.push n })

/-- Adds a node that is not written. -/
def addEmpty : Read Nat := add .empty

/-- Names a node; an anchor may be given once. -/
def bind (anchor : Option String) (number : Nat) : Read Unit := do
  match anchor with
  | none => return
  | some name =>
    if ((← get).anchors.lookup name).isSome then throw .malformed
    modify fun r => { r with anchors := (name, number) :: r.anchors }

/-- The node that an alias stands for. -/
def aliased (name : String) : Read Nat := do
  match (← get).anchors.lookup name with
  | some number => return number
  | none => throw .malformed

mutual

/-- A node; block collections only if `block`, and sequences without indentation if `indentless`.
It has its number before its parts are read. -/
def node (block indentless : Bool) : Nat → Read Nat
  | 0 => throw .malformed
  | fuel + 1 => do
    match ← peek with
    | .alias name => advance; aliased name
    | _ =>
      let (anchor, written) ← properties
      let name ← written.mapM fullName
      let number ← addEmpty
      bind anchor number
      let n ← content block indentless (anchor.isSome || name.isSome) name fuel
      modify fun r => { r with nodes := r.nodes.setIfInBounds number n }
      return number

/-- A node behind its anchor and tag. -/
def content (block indentless hasProperties : Bool) (name : Option String) : Nat → Read Node
  | 0 => throw .malformed
  | fuel + 1 => do
    let listed := Node.sequence (collectionTag name .seq)
    let mapped := Node.mapping (collectionTag name .map)
    match ← peek with
    | .blockEntry =>
      if indentless then listed <$> indentlessItems [] fuel
      else if hasProperties then return .scalar (scalarTag name true "") ""
      else throw .malformed
    | .scalar text plain => advance; return .scalar (scalarTag name plain text) text
    | .flowSequenceStart => advance; listed <$> flowItems true [] fuel
    | .flowMappingStart => advance; mapped <$> flowEntries true [] fuel
    | .sequenceStart =>
      if block then advance; listed <$> blockItems [] fuel
      else if hasProperties then return .scalar (scalarTag name true "") ""
      else throw .malformed
    | .mappingStart =>
      if block then advance; mapped <$> blockEntries [] fuel
      else if hasProperties then return .scalar (scalarTag name true "") ""
      else throw .malformed
    | _ =>
      if hasProperties then return .scalar (scalarTag name true "") "" else throw .malformed

/-- The items of a block sequence. -/
def blockItems (done : List Nat) : Nat → Read (List Nat)
  | 0 => throw .malformed
  | fuel + 1 => do
    match ← peek with
    | .blockEntry =>
      advance
      let n ← if ← isNext [.blockEntry, .blockEnd] then addEmpty else node true false fuel
      blockItems (n :: done) fuel
    | .blockEnd => advance; return done.reverse
    | _ => throw .malformed

/-- The items of a sequence that is not indented deeper than its key. -/
def indentlessItems (done : List Nat) : Nat → Read (List Nat)
  | 0 => throw .malformed
  | fuel + 1 => do
    match ← peek with
    | .blockEntry =>
      advance
      let n ← if ← isNext [.blockEntry, .key, .value, .blockEnd] then addEmpty
        else node true false fuel
      indentlessItems (n :: done) fuel
    | _ => return done.reverse

/-- The value of a key, if one is written; `stops` are the tokens that follow an empty one. -/
def valueOf (block : Bool) (stops : List Token) : Nat → Read Nat
  | 0 => throw .malformed
  | fuel + 1 => do
    match ← peek with
    | .value =>
      advance
      if ← isNext stops then addEmpty else node block block fuel
    | _ => addEmpty

/-- The entries of a block mapping. -/
def blockEntries (done : List (Nat × Nat)) : Nat → Read (List (Nat × Nat))
  | 0 => throw .malformed
  | fuel + 1 => do
    match ← peek with
    | .key =>
      advance
      let stops : List Token := [.key, .value, .blockEnd]
      let k ← if ← isNext stops then addEmpty else node true true fuel
      let v ← valueOf true stops fuel
      blockEntries ((k, v) :: done) fuel
    | .blockEnd => advance; return done.reverse
    | _ => throw .malformed

/-- An entry of a flow collection behind the token for its key. -/
def flowEntry (close : Token) : Nat → Read (Nat × Nat)
  | 0 => throw .malformed
  | fuel + 1 => do
    let k ← if ← isNext [.value, .flowEntry, close] then addEmpty else node false false fuel
    let v ← valueOf false [.flowEntry, close] fuel
    return (k, v)

/-- The items of a flow sequence; an item with a key is a mapping of one entry. -/
def flowItems (first : Bool) (done : List Nat) : Nat → Read (List Nat)
  | 0 => throw .malformed
  | fuel + 1 => do
    if ← isNext [.flowSequenceEnd] then
      advance
      return done.reverse
    if !first then expect .flowEntry
    match ← peek with
    | .key =>
      advance
      let entry ← flowEntry .flowSequenceEnd fuel
      flowItems false ((← add (.mapping .map [entry])) :: done) fuel
    | .flowSequenceEnd => advance; return done.reverse
    | _ =>
      let n ← node false false fuel
      flowItems false (n :: done) fuel

/-- The entries of a flow mapping; a node alone is a key without a value. -/
def flowEntries (first : Bool) (done : List (Nat × Nat)) : Nat → Read (List (Nat × Nat))
  | 0 => throw .malformed
  | fuel + 1 => do
    if ← isNext [.flowMappingEnd] then
      advance
      return done.reverse
    if !first then expect .flowEntry
    match ← peek with
    | .key =>
      advance
      let entry ← flowEntry .flowMappingEnd fuel
      flowEntries false (entry :: done) fuel
    | .flowMappingEnd => advance; return done.reverse
    | _ =>
      let n ← node false false fuel
      flowEntries false ((n, ← addEmpty) :: done) fuel

end

/-- The directives of a document. -/
def directives (version : Bool) (handles : List (String × String)) :
    Nat → Read (List (String × String))
  | 0 => throw .malformed
  | fuel + 1 => do
    match ← peek with
    | .directive (.version major _) =>
      if version || major ≠ 1 then throw .malformed
      advance
      directives true handles fuel
    | .directive (.tag handle uri) =>
      if (handles.lookup handle).isSome then throw .malformed
      advance
      directives version ((handle, uri) :: handles) fuel
    | .directive .other => advance; directives version handles fuel
    | _ => return handles

/-- Steps over marks of a document's end. -/
def skipEnds : Nat → Read Unit
  | 0 => throw .malformed
  | fuel + 1 => do
    if ← isNext [.documentEnd] then
      advance
      skipEnds fuel

/-- The content of a document that began with a mark. -/
def explicitContent (fuel : Nat) : Read Nat := do
  match ← peek with
  | .directive _ => addEmpty
  | .documentStart => addEmpty
  | .documentEnd => addEmpty
  | .streamEnd => addEmpty
  | _ => node true false fuel

/-- The only document, if there is one. -/
def document (fuel : Nat) : Read (Option Graph) := do
  let explicit ← match ← peek with
    | .directive _ => pure true
    | .documentStart => pure true
    | .streamEnd => return none
    | _ => pure false
  let n ←
    if explicit then do
      let handles ← directives false [] fuel
      modify fun r => { r with handles := handles ++ standardHandles }
      expect .documentStart
      explicitContent fuel
    else node true false fuel
  skipEnds fuel
  expect .streamEnd
  return some ⟨(← get).nodes, n⟩

/-- The document that tokens describe. -/
def ofTokens (tokens : List Token) : Except Fault (Option Graph) :=
  (document (4 * tokens.length + 8)).run' { tokens, handles := standardHandles }

end Graph

end ModifierLint.Yaml
