/-
# From concrete to abstract trees

Every concrete node becomes one node with lines from one, columns in characters, and the text that
it covers.  The text is cut after `textLimit` characters.

`Abstraction.convert` works bottom-up with a stack: a node is pushed twice, first to push its
children, then to take the converted children off the list of finished nodes.
-/
import ModifierLint.Java.Cst
import ModifierLint.Tree.Node
import ModifierLint.Text.Utf8

namespace ModifierLint.Java

/-- The place in a file that an offset names; negative ones count from its end. -/
def placeOf (source : ByteArray) (offset : Int) : Nat :=
  (if offset < 0 then offset + source.size else offset).toNat

/-- The octets from `start` up to `stop`. -/
def octets (source : ByteArray) (start stop : Int) : ByteArray :=
  source.extract (placeOf source start) (placeOf source stop)

/-- The column in characters of an offset whose column in octets is known: the number of characters
of the octets before it on its line. -/
def charColumn (source : ByteArray) (offset column : Int) : Nat :=
  Text.Utf8.characterCount (octets source (offset - column) offset)

namespace Abstraction

/-- The greatest number of characters that a node keeps of its text. -/
def textLimit : Nat := 1000

/-- The mark of a text that was cut. -/
def cutMark : String := "..."

/-- The text of a node. -/
def textOf (source : ByteArray) (extent : Extent) : String :=
  let octets := octets source extent.startByte extent.endByte
  let cs := Text.Utf8.firstCharacters textLimit octets
  if cs.length < textLimit then String.ofList cs else String.ofList cs ++ cutMark

/-- The place of a node. -/
def spanOf (source : ByteArray) (extent : Extent) : Span where
  startLine := extent.startPoint.row + 1
  startColumn := charColumn source extent.startByte extent.startPoint.column
  endLine := extent.endPoint.row + 1
  endColumn := charColumn source extent.endByte extent.endPoint.column

/-- The node that a concrete node becomes, given its children. -/
def build (source : ByteArray) (n : Cst) (children : List Node) : Node :=
  .mk n.kind (spanOf source n.extent) (some (textOf source n.extent)) children

/-- What is left to do with a concrete node. -/
inductive Task
  | enter (n : Cst)
  | build (n : Cst)

/-- The number of steps that a task takes. -/
def Task.cost : Task → Nat
  | enter n => 2 * n.size
  | build _ => 1

/-- The number of steps that tasks take. -/
def Task.costs : List Task → Nat
  | [] => 0
  | task :: rest => task.cost + costs rest

theorem Task.costs_append (ts us : List Task) : costs (ts ++ us) = costs ts + costs us := by
  induction ts with
  | nil => simp [costs]
  | cons t ts ih => simp [costs, ih]; omega

theorem Task.costs_enter (ns : List Cst) : costs (ns.map enter) = 2 * Cst.sizes ns := by
  induction ns with
  | nil => simp [costs, Cst.sizes]
  | cons n ns ih => simp [costs, Cst.sizes, ih, cost]; omega

/-- Works off tasks.  `finished` holds the converted nodes whose parents are not built yet, the
latest first. -/
def run (source : ByteArray) (finished : List Node) : List Task → List Node
  | [] => finished
  | .enter n :: rest => run source finished (n.children.map .enter ++ .build n :: rest)
  | .build n :: rest =>
    let count := n.children.length
    let children := (finished.take count).reverse
    run source (Abstraction.build source n children :: finished.drop count) rest
termination_by tasks => Task.costs tasks
decreasing_by
  · simp only [Task.costs_append, Task.costs_enter, Task.costs, Task.cost, Cst.size_eq n]; omega
  · simp [Task.costs, Task.cost]

/-- The abstract tree of a concrete tree. -/
def convert (source : ByteArray) (n : Cst) : Node :=
  (run source [] [.enter n]).headD (build source n [])

end Abstraction

/-- A source that cannot be made into a tree. -/
inductive ParseError
  /-- The grammar gave no tree. -/
  | noTree (filePath : String)
  /-- The place of the error counts lines and columns from one. -/
  | syntaxError (filePath : String) (line column : Int)
  /-- A language gives up in words of its own. -/
  | refused (reason : String)
  deriving Repr, DecidableEq

/-- The text of the error. -/
def ParseError.message : ParseError → String
  | noTree filePath => "Failed to parse Java file: " ++ filePath
  | syntaxError filePath line column =>
    "Syntax error in Java file " ++ filePath ++ " at line " ++ Text.ofInt line ++ ", column " ++
      Text.ofInt column
  | refused reason => reason

/-- What a grammar makes of a text. -/
abbrev Grammar := String → Option Cst

/-- The abstract tree of a text, if its concrete tree has no error. -/
def parseSource (grammar : Grammar) (filePath content : String) : Except ParseError Node :=
  let source := content.toUTF8
  match grammar content with
  | none => .error (.noTree filePath)
  | some root =>
    if root.hasError then
      let extent := root.errorNode.extent
      let column := charColumn source extent.startByte extent.startPoint.column
      .error (.syntaxError filePath (extent.startPoint.row + 1) (column + 1))
    else .ok (Abstraction.convert source root)

end ModifierLint.Java
