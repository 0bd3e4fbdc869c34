/-
# Scopes of Java declarations

A declaration belongs to the innermost type around it.  Types are the five kinds of type
declarations and anonymous classes: creation expressions with a class body of their own.  Whatever
else lies between (bodies, blocks, methods, statements) does not count.
-/
import ModifierLint.Java.Vocabulary
import ModifierLint.Tree.SourceTree

namespace ModifierLint.Java

/-- The kinds of type declarations. -/
def typeDeclarations : List String :=
  [Construct.classDeclaration.kind, Construct.enumDeclaration.kind,
    Construct.interfaceDeclaration.kind, Construct.annotationTypeDeclaration.kind,
    Construct.recordDeclaration.kind]

/-- Whether the node is a creation expression with a class body. -/
def isAnonymousClass (n : Node) : Bool :=
  n.kind == Construct.objectCreation.kind && n.hasChild Construct.classBody.kind

/-- Whether the node bounds a scope. -/
def isTypeBoundary (n : Node) : Bool :=
  typeDeclarations.contains n.kind || isAnonymousClass n

/-- The innermost type around a node; a declaration at the top has none. -/
def enclosingType (t : SourceTree) (h : Handle) : Except NotInTree (Option Nat) :=
  t.nearest isTypeBoundary h

/-- The kind of the innermost type around a node. -/
def enclosingKind (t : SourceTree) (h : Handle) : Except NotInTree (Option String) :=
  (enclosingType t h).map fun owner =>
    (owner.bind fun i => t.entries[i]?).map fun e => e.node.kind

/-- Whether a node is declared in the body of a class. -/
def isInClass (t : SourceTree) (h : Handle) : Except NotInTree Bool :=
  (enclosingKind t h).map (· == some Construct.classDeclaration.kind)

/-- Whether a node is declared in the body of an enum. -/
def isInEnum (t : SourceTree) (h : Handle) : Except NotInTree Bool :=
  (enclosingKind t h).map (· == some Construct.enumDeclaration.kind)

end ModifierLint.Java
