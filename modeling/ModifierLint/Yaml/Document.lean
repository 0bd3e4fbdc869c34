/-
# Documents

`Document.parse` is the value that a document describes.  Only the standard types can be named.

The nodes are built one after the other.  Collections are filled after the collection around them,
so that of several mistakes the one counts that is least deep, and at one depth the first.  A node
is built once, whatever stands for it; merging changes the mappings that are merged, and a key that
is the mark of a default becomes a text.  `value` then reads the value off what was built.
-/
import ModifierLint.Yaml.Node
import ModifierLint.Yaml.Meaning

namespace ModifierLint.Yaml.Document

/-- What a node was built to.  Parts are named by the numbers of their nodes. -/
inductive Made
  | scalar (v : Value)
  /-- A collection that is not filled yet. -/
  | unfilled
  | list (items : List Nat)
  | pairs (entries : List (Nat × Nat))
  | map (entries : List (Nat × Nat))
  | set (keys : List Nat)
  deriving Inhabited

/-- The nodes of a document under construction, what was built of each, and the collections to be
filled next, the latest first. -/
structure Site where
  nodes : Array Node
  made : Array (Option Made)
  waiting : List Nat := []

/-- Steps of a construction. -/
abbrev Build := StateT Site (Except Fault)

/-- The node of a number. -/
def nodeAt (i : Nat) : Build Node :=
  return (← get).nodes[i]?.getD default

/-- Changes a node. -/
def setNode (i : Nat) (n : Node) : Build Unit :=
  modify fun s => { s with nodes := s.nodes.setIfInBounds i n }

/-- Notes what a node was built to. -/
def setMade (i : Nat) (m : Made) : Build Unit :=
  modify fun s => { s with made := s.made.setIfInBounds i (some m) }

/-- What a node was built to, if it was. -/
def madeAt (i : Nat) : Build (Option Made) :=
  return ((← get).made[i]?).join

/-! ## Scalars -/

/-- The text of a node that must be a scalar; a mapping can name one as its default. -/
def textOf (nodes : Array Node) : Nat → Node → Except Fault String
  | _, .scalar _ text => .ok text
  | _, .sequence _ _ => .error .malformed
  | 0, .mapping _ _ => .error .endless
  | fuel + 1, .mapping _ entries =>
    let tagOf (i : Nat) : Option Tag := nodes[i]?.map Node.tag
    match entries.find? fun (k, _) => tagOf k = some .default with
    | some (_, v) => textOf nodes fuel (nodes[v]?.getD default)
    | none => .error .malformed

/-- The value of a node that is no collection; a moment cannot be named as a default. -/
def scalarValue (nodes : Array Node) (n : Node) : Except Fault Value := do
  let text ← textOf nodes nodes.size n
  match n with
  | .scalar tag _ => Meaning.ofText tag text
  | n => if n.tag = .timestamp then .error .notText else Meaning.ofText n.tag text

/-! ## Merging -/

/-- The entries of a mapping. -/
def entriesOf (i : Nat) : Build (List (Nat × Nat)) := do
  match ← nodeAt i with
  | .mapping _ entries => return entries
  | _ => return []

/-- Changes the entries of a mapping. -/
def setEntries (i : Nat) (entries : List (Nat × Nat)) : Build Unit := do
  match ← nodeAt i with
  | .mapping tag _ => setNode i (.mapping tag entries)
  | _ => return

/-- Ends the merging of a mapping: merged entries come first, and make it a mapping of the usual
type. -/
def putMerged (i : Nat) (merged : List (Nat × Nat)) : Build Unit := do
  if !merged.isEmpty then setNode i (.mapping .map (merged ++ (← entriesOf i)))

mutual

/-- Merges into a mapping what it asks for. -/
def flatten : Nat → Nat → Build Unit
  | 0, _ => throw .malformed
  | depth + 1, i => do scan (depth + 1) i 0 [] (← entriesOf i)
termination_by depth => (depth, 1, 0)

/-- Looks at the entries of a mapping from `index` on.  An entry that asks for merging is taken out
before the mappings that it names are looked at, which may change this one. -/
def scan (depth i index : Nat) (merged : List (Nat × Nat)) : List (Nat × Nat) → Build Unit
  | [] => putMerged i merged
  | (k, v) :: rest => do
    match ← nodeAt k with
    | .scalar .merge _ | .sequence .merge _ | .mapping .merge _ =>
      setEntries i ((← entriesOf i).eraseIdx index)
      match depth with
      | 0 => throw .malformed
      | inner + 1 =>
        let merged := merged ++ (← mergedFrom inner v)
        let now := (← entriesOf i).drop index
        if now = rest then scan (inner + 1) i index merged rest else scan inner i index merged now
    | .scalar .default text =>
      setNode k (.scalar .str text)
      scan depth i (index + 1) merged rest
    | _ => scan depth i (index + 1) merged rest
termination_by entries => (depth, 0, entries.length)

/-- The entries of a mapping, or of a list of mappings, the last first. -/
def mergedFrom (depth v : Nat) : Build (List (Nat × Nat)) := do
  match ← nodeAt v with
  | .mapping _ _ =>
    flatten depth v
    entriesOf v
  | .sequence _ items =>
    let found ← items.mapM fun item => do
      match ← nodeAt item with
      | .mapping _ _ =>
        flatten depth item
        entriesOf item
      | _ => throw .malformed
    return found.reverse.flatten
  | .scalar _ _ => throw .malformed
termination_by (depth, 2, 0)

end

/-! ## Building -/

/-- Whether a node of the tag is a collection. -/
def isCollection (tag : Tag) : Bool :=
  [Tag.omap, .pairs, .set, .seq, .map].contains tag

/-- Builds a node, unless it is built; a collection is filled later. -/
def build (i : Nat) : Build Made := do
  match ← madeAt i with
  | some m => return m
  | none =>
    let s ← get
    let n ← nodeAt i
    if isCollection n.tag then
      setMade i .unfilled
      modify fun s => { s with waiting := i :: s.waiting }
      return .unfilled
    else
      let m := Made.scalar (← scalarValue s.nodes n)
      setMade i m
      return m

/-- Builds a key, which must not be a collection. -/
def buildKey (i : Nat) : Build Unit := do
  match ← build i with
  | .scalar _ => return
  | _ => throw .malformed

/-- Builds the entries of a mapping with what is merged into it. -/
def buildEntries (i : Nat) : Build (List (Nat × Nat)) := do
  flatten ((← get).nodes.size + 1) i
  let entries ← entriesOf i
  for (k, v) in entries do
    buildKey k
    let _ ← build v
  return entries

/-- Builds the only entry of a mapping. -/
def buildPair (i : Nat) : Build (Nat × Nat) := do
  match ← nodeAt i with
  | .mapping _ [(k, v)] =>
    let _ ← build k
    let _ ← build v
    return (k, v)
  | _ => throw .malformed

/-- Fills a collection. -/
def fill (i : Nat) : Build Unit := do
  let n ← nodeAt i
  match n.tag, n with
  | .seq, .sequence _ items =>
    for item in items do
      let _ ← build item
    setMade i (.list items)
  | .map, .mapping _ _ => setMade i (.map (← buildEntries i))
  | .set, .mapping _ _ => setMade i (.set ((← buildEntries i).map Prod.fst))
  | .omap, .sequence _ items => setMade i (.pairs (← items.mapM buildPair))
  | .pairs, .sequence _ items => setMade i (.pairs (← items.mapM buildPair))
  | _, _ => throw .malformed

/-- Fills the collections that wait, then those that were found in them, and so on. -/
def fillWaiting : Nat → Build Unit
  | 0 => return
  | rounds + 1 => do
    let waiting := (← get).waiting.reverse
    if waiting.isEmpty then return
    modify fun s => { s with waiting := [] }
    waiting.forM fill
    fillWaiting rounds

/-- Builds all nodes of a document. -/
def buildAll (g : Graph) : Except Fault Site := do
  let start : Site := { nodes := g.nodes, made := Array.replicate g.nodes.size none }
  let (_, site) ← (do
    let _ ← build g.root
    fillWaiting (g.nodes.size + 1) : Build Unit).run start
  return site

/-! ## Values -/

/-- How often a collection that holds itself is written out on the way down. -/
def mostTurns : Nat := 3

/-- A number that tells keys that are no numbers apart: the word for it is always the same one, and
others are the same only if their nodes are. -/
def identity (nodes : Array Node) (i : Nat) : Nat :=
  match textOf nodes nodes.size (nodes[i]?.getD default) with
  | .ok text => if Meaning.isNotANumber text then 0 else i + 1
  | .error _ => i + 1

/-- Whether two keys are the same, given with their identities. -/
def sameKey (a b : Nat × Value) : Bool :=
  match a.2, b.2 with
  | .float x, .float y => if x.isNaN && y.isNaN then a.1 == b.1 else Value.sameKey a.2 b.2
  | _, _ => Value.sameKey a.2 b.2

/-- The value that a node was built to, down to a depth, where `around` are the collections that
it is in. -/
def value (site : Site) : Nat → List Nat → Nat → Value
  | 0, _, _ => .null
  | depth + 1, around, i =>
    let part := value site depth (i :: around)
    let key (k : Nat) : Nat × Value := (identity site.nodes k, part k)
    if around.count i ≥ mostTurns then .null
    else
      match (site.made[i]?).join with
      | some (.scalar v) => v
      | some (.list items) => .list (items.map part)
      | some (.pairs entries) => .list (entries.map fun (k, v) => .tuple [part k, part v])
      | some (.map entries) =>
        let written := entries.foldl (fun es (k, v) => Keyed.put sameKey (key k) (part v) es) []
        .map (written.map fun (k, v) => (k.2, v))
      | some (.set keys) =>
        let written := keys.foldl (fun es k => Keyed.put sameKey (key k) () es) []
        .set (written.map (·.1.2))
      | some .unfilled | none => .null

/-- The value of a text; an empty text describes null. -/
def parse (source : Source) : Except Fault Value := do
  match ← Graph.ofTokens (Token.scan source) with
  | none => return .null
  | some g =>
    let site ← buildAll g
    return value site (mostTurns * g.nodes.size + 1) [] g.root

end ModifierLint.Yaml.Document
