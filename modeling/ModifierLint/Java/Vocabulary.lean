/-
# The vocabulary of Java trees

The grammatical constructs that checks and scope queries refer to, with the kind of node that each
is, and the modifiers that a declaration may carry.
-/

namespace ModifierLint.Java

/-- Grammatical constructs. -/
inductive Construct
  | program
  | classDeclaration
  | classBody
  | interfaceDeclaration
  | interfaceBody
  | enumDeclaration
  | enumBody
  | enumBodyDeclarations
  | recordDeclaration
  | annotationTypeDeclaration
  | objectCreation
  | methodDeclaration
  | constructorDeclaration
  | block
  | modifiers
  | identifier
  | error
  deriving Repr, DecidableEq

namespace Construct

/-- All constructs. -/
def all : List Construct :=
  [program, classDeclaration, classBody, interfaceDeclaration, interfaceBody, enumDeclaration,
    enumBody, enumBodyDeclarations, recordDeclaration, annotationTypeDeclaration, objectCreation,
    methodDeclaration, constructorDeclaration, block, modifiers, identifier, error]

/-- The kind of node that a construct is. -/
def kind : Construct → String
  | program => "program"
  | classDeclaration => "class_declaration"
  | classBody => "class_body"
  | interfaceDeclaration => "interface_declaration"
  | interfaceBody => "interface_body"
  | enumDeclaration => "enum_declaration"
  | enumBody => "enum_body"
  | enumBodyDeclarations => "enum_body_declarations"
  | recordDeclaration => "record_declaration"
  | annotationTypeDeclaration => "annotation_type_declaration"
  | objectCreation => "object_creation_expression"
  | methodDeclaration => "method_declaration"
  | constructorDeclaration => "constructor_declaration"
  | block => "block"
  | modifiers => "modifiers"
  | identifier => "identifier"
  | error => "ERROR"

/-- The construct that a kind of node is. -/
def ofKind? (kind : String) : Option Construct :=
  all.find? (·.kind == kind)

end Construct

/-- Modifiers of declarations. -/
inductive Modifier
  | isPublic
  | isProtected
  | isPrivate
  | isAbstract
  | isStatic
  | isFinal
  | isStrictfp
  | isDefault
  | isSealed
  | isNonSealed
  deriving Repr, DecidableEq

namespace Modifier

/-- All modifiers. -/
def all : List Modifier :=
  [isPublic, isProtected, isPrivate, isAbstract, isStatic, isFinal, isStrictfp, isDefault,
    isSealed, isNonSealed]

/-- How a modifier is written. -/
def keyword : Modifier → String
  | isPublic => "public"
  | isProtected => "protected"
  | isPrivate => "private"
  | isAbstract => "abstract"
  | isStatic => "static"
  | isFinal => "final"
  | isStrictfp => "strictfp"
  | isDefault => "default"
  | isSealed => "sealed"
  | isNonSealed => "non-sealed"

/-- The modifier that a keyword writes. -/
def ofKeyword? (keyword : String) : Option Modifier :=
  all.find? (·.keyword == keyword)

end Modifier

end ModifierLint.Java
