/-
# The grammar of Java

`Phrase.rule` says how every construct of the language is written.  Modifiers may be combined at
will, and statements may stand outside of types: what a declaration means is not a matter of
grammar.

Keywords are kept apart from names by their place: where no keyword can stand, every word is a name.

`grammar` reads a file.  A file that no rule fits has an error at the furthest token that was
reached.
-/
import ModifierLint.Java.Abstraction
import ModifierLint.Java.Rule

namespace ModifierLint.Java

/-- The constructs that rules refer to. -/
inductive Phrase
  | file
  | modifiers
  | annotation
  | annotationValue
  | type
  | simpleType
  | typeArguments
  | typeParameters
  | dimensions
  | typeDeclaration
  | classBody
  | classMember
  | interfaceMember
  | annotationTypeMember
  | enumConstant
  | method
  | parameters
  | declarators
  | initializer
  | variableName
  | block
  | statement
  | simpleStatement
  | switch
  | switchLabel
  | pattern
  | expression
  | lambda
  | convertedLambda
  | conditional
  | tail
  | operand
  | prefixed
  | access
  | primary
  | suffix
  | creation
  | arguments
  deriving Repr, DecidableEq

namespace Phrase

open Rule

/-- A phrase as a rule. -/
abbrev see (p : Phrase) : Rule Phrase := .named p

/-! ## Keywords and names -/

/-- The types that keywords name. -/
def primitiveTypes : List String :=
  ["void", "byte", "short", "int", "long", "char", "float", "double", "boolean"]

/-- The keywords among the modifiers. -/
def modifierKeywords : List String :=
  ["public", "protected", "private", "abstract", "static", "final", "strictfp", "default",
    "synchronized", "native", "transient", "volatile", "sealed"]

/-- The keywords that an operand may start with, and the one that may follow an operand. -/
def operandKeywords : List String :=
  primitiveTypes ++ ["new", "this", "super", "switch", "true", "false", "null", "instanceof"]

/-- The keywords that no operand but a statement may start with. -/
def statementKeywords : List String :=
  modifierKeywords.erase "sealed" ++
    ["assert", "break", "case", "class", "continue", "do", "enum", "for", "if", "import",
      "interface", "package", "return", "throw", "try", "while"]

/-- The keywords that are names of variables, but not of types, where a statement or an operand may
start. -/
def softKeywords : List String :=
  ["open", "module", "record", "with", "sealed", "yield"]

/-- The keywords that a member of a class may start with. -/
def memberKeywords : List String :=
  primitiveTypes ++ modifierKeywords ++ ["class", "interface", "enum", "record"]

/-- A name where no keyword can stand. -/
def name : Rule Phrase := .token (.name [])

/-- A name that an operand is or starts with. -/
def operandName : Rule Phrase := .token (.name operandKeywords)

/-- The name of a member after a dot. -/
def memberName : Rule Phrase := .token (.name ["class", "new", "super", "this"])

/-- What the name of a type may be where only a type can stand. -/
def anyType : Terminal := .name primitiveTypes

/-- What the name of a type may be where an operand can stand as well. -/
def typeOrOperand : Terminal := .name (operandKeywords ++ softKeywords)

/-- What the name of a type may be where a statement can stand as well. -/
def typeOrStatement : Terminal := .name (operandKeywords ++ softKeywords ++ statementKeywords)

/-- What the name of a type may be where a member starts. -/
def typeOfMember : Terminal := .name memberKeywords

/-- Names with dots between. -/
def qualifiedName : Rule Phrase := separated "." name

/-- Any number of annotations. -/
def annotations : Rule Phrase := .many (see annotation)

/-- Any modifiers. -/
def anyModifiers : Rule Phrase := opt (see modifiers)

/-- Types with commas between. -/
def types : Rule Phrase := separated "," (see type)

/-- An expression in parentheses. -/
def parenthesized : Rule Phrase :=
  form "parenthesized_expression" [text "(", see expression, text ")"]

/-! ## Modifiers and annotations -/

/-- The modifier of three tokens. -/
def nonSealed : Rule Phrase :=
  form Modifier.isNonSealed.keyword
    [text "non", .token (.glued "-"), .token (.glued Modifier.isSealed.keyword)]

/-- Modifiers in any order and combination. -/
def modifiersRule : Rule Phrase :=
  .node Construct.modifiers.kind
    (repeated (.choice [see annotation, anyOf modifierKeywords, nonSealed]))

/-- What stands in the parentheses of an annotation. -/
def annotationArguments : Rule Phrase :=
  form "annotation_argument_list"
    [text "(",
      .choice
        [.seq
            [element (.token (.name (operandKeywords ++ softKeywords))),
              .many (.seq [text ",", element name]), text ")"],
          .seq [see annotationValue, text ")"],
          text ")"]]
where
  /-- The value of a named element. -/
  element (key : Rule Phrase) : Rule Phrase :=
    form "element_value_pair" [key, text "=", see annotationValue]

/-- An annotation with or without arguments. -/
def annotationRule : Rule Phrase :=
  form "annotation" [text "@", qualifiedName, opt annotationArguments]

/-- The value of an element of an annotation. -/
def annotationValueRule : Rule Phrase :=
  .choice
    [see annotation,
      form "element_value_array_initializer"
        [text "\x7b", list (see annotationValue), opt (text ","), text "\x7d"],
      see expression]

/-! ## Types -/

/-- A type that is no array and starts with a name of a class. -/
def namedType (head : Terminal) : Rule Phrase :=
  .seq
    [.token head, opt (see typeArguments),
      .many (.seq [text ".", annotations, memberName, opt (see typeArguments)])]

/-- A type that is no array. -/
def simpleTypeOf (head : Terminal) : Rule Phrase :=
  .choice [anyOf primitiveTypes, namedType head]

/-- A type without annotations in front. -/
def typeOf (head : Terminal) : Rule Phrase :=
  .seq [simpleTypeOf head, opt (see dimensions)]

/-- A type that is no array, where only a type can stand. -/
def simpleTypeRule : Rule Phrase := simpleTypeOf anyType

/-- A type where only a type can stand. -/
def typeRule : Rule Phrase := .seq [annotations, typeOf anyType]

/-- A type argument that stands for any type within bounds. -/
def wildcard : Rule Phrase :=
  form "wildcard" [annotations, text "?", optSeq [anyOf ["extends", "super"], see type]]

/-- Type arguments, of which there may be none. -/
def typeArgumentsRule : Rule Phrase :=
  form "type_arguments" [text "<", list (.choice [wildcard, see type]), text ">"]

/-- Type parameters with their bounds. -/
def typeParametersRule : Rule Phrase :=
  form "type_parameters"
    [text "<",
      separated "," (form "type_parameter"
        [annotations, name, optSeq [text "extends", separated "&" (see type)]]),
      text ">"]

/-- The empty brackets of array types. -/
def dimensionsRule : Rule Phrase :=
  form "dimensions" [repeated (.seq [annotations, text "[", text "]"])]

/-! ## Declarations of types -/

/-- The interfaces after a keyword. -/
def typeList (keyword : String) : Rule Phrase := optSeq [text keyword, types]

/-- A record. -/
def recordDeclaration : Rule Phrase :=
  form Construct.recordDeclaration.kind
    [anyModifiers, text "record", name, opt (see typeParameters), see parameters,
      typeList "implements", see classBody]

/-- A class. -/
def classDeclaration : Rule Phrase :=
  form Construct.classDeclaration.kind
    [anyModifiers, text "class", name, opt (see typeParameters),
      optSeq [text "extends", see type], typeList "implements", typeList "permits",
      see classBody]

/-- An interface. -/
def interfaceDeclaration : Rule Phrase :=
  form Construct.interfaceDeclaration.kind
    [anyModifiers, text "interface", name, opt (see typeParameters), typeList "extends",
      typeList "permits",
      form Construct.interfaceBody.kind [text "\x7b", .many (see interfaceMember), text "\x7d"]]

/-- An annotation type. -/
def annotationTypeDeclaration : Rule Phrase :=
  form Construct.annotationTypeDeclaration.kind
    [anyModifiers, text "@interface", name,
      form "annotation_type_body"
        [text "\x7b", .many (see annotationTypeMember), text "\x7d"]]

/-- An enum: its constants, and after a semicolon its other members. -/
def enumDeclaration : Rule Phrase :=
  form Construct.enumDeclaration.kind
    [anyModifiers, text "enum", name, typeList "implements",
      form Construct.enumBody.kind
        [text "\x7b", list (see enumConstant), opt (text ","),
          opt (form Construct.enumBodyDeclarations.kind [text ";", .many (see classMember)]),
          text "\x7d"]]

/-- A constant of an enum, which may have a class body of its own. -/
def enumConstantRule : Rule Phrase :=
  form "enum_constant" [anyModifiers, name, opt (see arguments), opt (see classBody)]

/-- A declaration of a type. -/
def typeDeclarationRule : Rule Phrase :=
  .choice
    [recordDeclaration, classDeclaration, interfaceDeclaration, annotationTypeDeclaration,
      enumDeclaration]

/-! ## Members -/

/-- The body of a class. -/
def classBodyRule : Rule Phrase :=
  form Construct.classBody.kind [text "\x7b", .many (see classMember), text "\x7d"]

/-- Exceptions after a header. -/
def throwsClause : Rule Phrase := typeList "throws"

/-- A method with or without a body. -/
def methodOf (head : Terminal) : Rule Phrase :=
  form Construct.methodDeclaration.kind
    [anyModifiers, optSeq [see typeParameters, annotations], typeOf head, name, see parameters,
      opt (see dimensions), throwsClause, .choice [see block, text ";"]]

/-- A method of a type. -/
def methodRule : Rule Phrase := methodOf typeOfMember

/-- A declaration of variables with modifiers. -/
def declaring (kind : String) (head : Terminal) : Rule Phrase :=
  form kind [anyModifiers, typeOf head, see declarators, text ";"]

/-- A call of another constructor of the class or of its parent, which only starts the body of a
constructor.  It may name an enclosing object. -/
def constructorCall : Rule Phrase :=
  form "explicit_constructor_invocation"
    [.choice
        [.seq [opt (see typeArguments), anyOf ["this", "super"], see arguments],
          .seq [see access, text ".", opt (see typeArguments), text "super", see arguments]],
      text ";"]

/-- The name of a constructor. -/
def constructorName : Rule Phrase := .token typeOfMember

/-- A constructor. -/
def constructor : Rule Phrase :=
  form Construct.constructorDeclaration.kind
    [anyModifiers, opt (see typeParameters), constructorName, see parameters, throwsClause,
      form "constructor_body"
        [text "\x7b", opt constructorCall, .many (see statement), text "\x7d"]]

/-- A member of a class, record or enum. -/
def classMemberRule : Rule Phrase :=
  .choice
    [text ";", see block, form "static_initializer" [text "static", see block],
      see typeDeclaration, see method, declaring "field_declaration" typeOfMember, constructor,
      form "compact_constructor_declaration" [anyModifiers, constructorName, see block]]

/-- Constants of an interface. -/
def constants : Rule Phrase := declaring "constant_declaration" typeOfMember

/-- A member of an interface. -/
def interfaceMemberRule : Rule Phrase :=
  .choice
    [text ";", see typeDeclaration, see method, constants]

/-- An element of an annotation type. -/
def annotationElement : Rule Phrase :=
  form "annotation_type_element_declaration"
    [anyModifiers, typeOf typeOfMember, name, text "(", text ")", opt (see dimensions),
      optSeq [text "default", see annotationValue], text ";"]

/-- A member of an annotation type; records and methods with parameters are none. -/
def annotationTypeMemberRule : Rule Phrase :=
  .choice
    [text ";", annotationElement, constants, classDeclaration, interfaceDeclaration,
      annotationTypeDeclaration, enumDeclaration]

/-- The parameters of a method: the last may stand for many, the first for the receiver.  The dots
cannot be annotated. -/
def parametersRule : Rule Phrase :=
  form "formal_parameters"
    [text "(",
      list (form "formal_parameter"
        [anyModifiers, see type,
          .choice
            [.seq [text "...", see variableName],
              .seq [.many (.seq [name, text "."]), text "this"],
              see variableName]]),
      text ")"]

/-- The name of a variable with its own dimensions. -/
def variableNameRule : Rule Phrase := .seq [name, opt (see dimensions)]

/-- Variables with their initial values. -/
def declaratorsRule : Rule Phrase :=
  separated "," (form "variable_declarator"
    [see variableName, optSeq [text "=", see initializer]])

/-- An initial value. -/
def initializerRule : Rule Phrase :=
  .choice
    [form "array_initializer"
        [text "\x7b", list (see initializer), opt (text ","), text "\x7d"],
      see expression]

/-! ## Statements -/

/-- A block of statements. -/
def blockRule : Rule Phrase :=
  form Construct.block.kind [text "\x7b", .many (see statement), text "\x7d"]

/-- A declaration of the packages that a module uses and offers. -/
def moduleDeclaration : Rule Phrase :=
  let names (keyword : String) := optSeq [text keyword, separated "," qualifiedName]
  form "module_declaration"
    [annotations, opt (text "open"), text "module", qualifiedName, text "\x7b",
      .many (.choice
        [.seq [text "requires", .many (anyOf ["transitive", "static"]), qualifiedName,
            text ";"],
          .seq [anyOf ["exports", "opens"], qualifiedName, names "to", text ";"],
          .seq [text "uses", qualifiedName, text ";"],
          .seq [text "provides", qualifiedName, names "with", text ";"]]),
      text "\x7d"]

/-- The package of a file. -/
def packageDeclaration : Rule Phrase :=
  form "package_declaration" [annotations, text "package", qualifiedName, text ";"]

/-- An import of a name or of all names of a package or type. -/
def importDeclaration : Rule Phrase :=
  form "import_declaration"
    [text "import", opt (text "static"), qualifiedName, optSeq [text ".", text "*"], text ";"]

/-- A declaration of local variables. -/
def localVariables : Rule Phrase := declaring "local_variable_declaration" typeOrStatement

/-- A loop over a collection or with a counter. -/
def forStatement : Rule Phrase :=
  .choice
    [form "enhanced_for_statement"
        [text "for", text "(", anyModifiers, typeOf typeOrStatement, see variableName, text ":",
          see expression, text ")", see statement],
      form "for_statement"
        [text "for", text "(",
          .choice [localVariables, .seq [list (see expression), text ";"]],
          opt (see expression), text ";", list (see expression), text ")", see statement]]

/-- A handler of exceptions. -/
def catchClause : Rule Phrase :=
  form "catch_clause"
    [text "catch", text "(", anyModifiers, separated "|" (typeOf anyType), see variableName,
      text ")", see block]

/-- What is done in any case. -/
def finallyClause : Rule Phrase := form "finally_clause" [text "finally", see block]

/-- A resource that a statement closes. -/
def resource : Rule Phrase :=
  form "resource"
    [.choice
      [.seq [anyModifiers, typeOf typeOrStatement, see variableName, text "=", see expression],
        see access]]

/-- A block with resources, or with handlers. -/
def tryStatement : Rule Phrase :=
  .choice
    [form "try_with_resources_statement"
        [text "try", text "(", separated ";" resource, opt (text ";"), text ")", see block,
          .many catchClause, opt finallyClause],
      form "try_statement"
        [text "try", see block,
          .choice [.seq [repeated catchClause, opt finallyClause], finallyClause]]]

/-- A statement that begins with a keyword of its own. -/
def simpleStatementRule : Rule Phrase :=
  .choice
    [form "if_statement"
        [text "if", parenthesized, see statement, optSeq [text "else", see statement]],
      form "while_statement" [text "while", parenthesized, see statement],
      forStatement,
      form "do_statement" [text "do", see statement, text "while", parenthesized, text ";"],
      tryStatement,
      see switch,
      form "synchronized_statement" [text "synchronized", parenthesized, see block],
      form "return_statement" [text "return", opt (see expression), text ";"],
      form "throw_statement" [text "throw", see expression, text ";"],
      form "break_statement" [text "break", opt name, text ";"],
      form "continue_statement" [text "continue", opt name, text ";"],
      form "assert_statement"
        [text "assert", see expression, optSeq [text ":", see expression], text ";"],
      form "yield_statement" [text "yield", see expression, text ";"]]

/-- A statement.  A switch stands for itself and is no expression with a semicolon. -/
def statementRule : Rule Phrase :=
  .choice
    [text ";", see block, see simpleStatement, see typeDeclaration, localVariables,
      form "labeled_statement" [.token typeOrStatement, text ":", see statement],
      form "expression_statement"
        [.absent (anyOf ("switch" :: statementKeywords)), see expression, text ";"],
      importDeclaration, packageDeclaration, moduleDeclaration]

/-- A file: statements and methods up to the end. -/
def fileRule : Rule Phrase :=
  form Construct.program.kind
    [.many (.choice [see statement, methodOf typeOrStatement]), .absent (.token .anything)]

/-! ## Branches on values -/

/-- A choice between groups of statements or between rules with arrows. -/
def switchRule : Rule Phrase :=
  form "switch_expression"
    [text "switch", parenthesized,
      form "switch_block"
        [text "\x7b",
          .choice
            [.seq
                [.many (form "switch_block_statement_group"
                  [repeated (.seq [see switchLabel, text ":"]), .many (see statement)]),
                  text "\x7d"],
              .seq
                [.many (form "switch_rule"
                  [see switchLabel, text "->",
                    .choice
                      [see block, form "throw_statement" [text "throw", see expression, text ";"],
                        form "expression_statement" [see expression, text ";"]]]),
                  text "\x7d"]]]]

/-- The values or the pattern of a branch, with a condition. -/
def switchLabelRule : Rule Phrase :=
  form "switch_label"
    [.choice
      [text "default",
        .seq
          [text "case",
            .choice
              [.seq [see pattern, ahead (anyOf ["when", ":", "->"])],
                separated "," (.choice [text "default", see conditional])],
            optSeq [text "when", see conditional]]]]

/-- A pattern for the components of a record, whose type has one name or arguments. -/
def recordPattern : Rule Phrase :=
  form "record_pattern"
    [.choice
        [.seq [operandName, ahead (text "(")], .seq [namedType typeOrOperand, .after (.exact ">")]],
      text "(", list (.choice [see pattern, text "_"]), text ")"]

/-- A pattern with names for what it matches; it has no modifiers. -/
def patternRule : Rule Phrase :=
  .choice
    [recordPattern, form "type_pattern" [typeOf typeOrOperand, .absent (text "when"), name]]

/-! ## Expressions -/

/-- An expression.  Names, fields and elements of arrays can be assigned to. -/
def expressionRule : Rule Phrase :=
  .choice
    [see lambda,
      see convertedLambda,
      .seq [see prefixed, see tail],
      .seq
        [see access,
          .choice
            [.seq
                [.choice [.after (.name operandKeywords), .after (.exact "]")], assignment,
                  see expression],
              .seq [.many (anyOf ["++", "--"]), see tail]]]]
where
  /-- The operators that assign. -/
  assignment : Rule Phrase :=
    .choice
      [anyOf ["=", "+=", "-=", "*=", "/=", "%=", "&=", "|=", "^=", "<<="],
        .seq
          [text ">", .token (.glued ">"), opt (.token (.glued ">")), .token (.glued "=")]]

/-- A function; `parameters` marks the parentheses that belong to one. -/
def lambdaRule : Rule Phrase :=
  form "lambda_expression"
    [.choice
        [operandName,
          .seq
            [ahead (.token .parameters),
              .choice
                [form "inferred_parameters" [text "(", list operandName, text ")"],
                  see parameters]]],
      text "->", .choice [see block, see expression]]

/-- The type that a value is converted to. -/
def target : Rule Phrase := .seq [annotations, typeOf typeOrOperand]

/-- The other types that a value is converted to. -/
def targets : Rule Phrase := .many (.seq [text "&", see type])

/-- A function that is converted to a type. -/
def convertedLambdaRule : Rule Phrase :=
  form "cast_expression"
    [text "(", target, targets, text ")", .choice [see lambda, see convertedLambda]]

/-- The operators between two operands. -/
def binaryOperator : Rule Phrase :=
  .choice
    [anyOf ["+", "-", "*", "/", "%", "&&", "||", "&", "|", "^", "==", "!=", "<=", "<<", "<"],
      .seq
        [text ">", .choice
          [.token (.glued "="),
            .seq [.token (.glued ">"), opt (.token (.glued ">"))],
            nothing]]]

/-- The operators and operands that follow the first operand. -/
def operations : Rule Phrase :=
  .many (.choice
    [.seq [binaryOperator, see operand],
      .seq
        [text "instanceof", opt (text "final"),
          .choice [recordPattern, .seq [see type, opt (.token (.name ["instanceof"]))]]]])

/-- What follows the first operand of an expression. -/
def tailRule : Rule Phrase :=
  .seq [operations, optSeq [text "?", see expression, text ":", see expression]]

/-- An expression without assignment that does not end with a function, so that an arrow may follow
it. -/
def conditionalRule : Rule Phrase :=
  .seq [see operand, operations, optSeq [text "?", see expression, text ":", see conditional]]

/-- An operand of an operator. -/
def operandRule : Rule Phrase :=
  .choice [see prefixed, .seq [see access, .many (anyOf ["++", "--"])]]

/-- A conversion to a type, or to several at once.  A sign after a reference type in parentheses is
an operator between two operands. -/
def cast : Rule Phrase :=
  form "cast_expression"
    [.choice
      [.seq
          [text "(", annotations, anyOf primitiveTypes, opt (see dimensions), text ")",
            see operand],
        .seq [text "(", target, text ")", .absent (anyOf ["+", "-"]), see operand],
        .seq [text "(", target, targets, text ")", see access]]]

/-- An operand that begins with an operator, a conversion or a switch. -/
def prefixedRule : Rule Phrase :=
  .choice
    [.seq [anyOf ["+", "-", "!", "~", "++", "--"], see operand], cast, see switch]

/-- A primary expression and what is accessed from it. -/
def accessRule : Rule Phrase := .span (.seq [see primary, .many (see suffix)])

/-- What follows the colons of a reference to a method. -/
def methodReference : Rule Phrase :=
  .seq [text "::", opt (see typeArguments), .choice [text "new", name]]

/-- A string, which may hold expressions. -/
def stringLiteral : Rule Phrase :=
  .choice
    [.token (.string .string),
      .seq
        [.token (.string .opening), see expression,
          .many (.seq [.token (.string .middle), see expression]), .token (.string .closing)]]

/-- What an expression starts with. -/
def primaryRule : Rule Phrase :=
  .choice
    [.seq [typeOf typeOrOperand, .choice [.seq [text ".", text "class"], methodReference]],
      .seq [repeated (see annotation), typeOf typeOrOperand, methodReference],
      .seq [operandName, opt (see arguments)],
      .token .number, stringLiteral, .token .character,
      anyOf ["true", "false", "null", "this"],
      .seq [text "super", ahead (anyOf [".", "::"])],
      see creation,
      parenthesized]

/-- The creation of an object, with or without a class body. -/
def createdObject : Rule Phrase :=
  .seq
    [text "new", annotations, opt (see typeArguments), annotations, see simpleType,
      see arguments, opt (see classBody)]

/-- An access to a member, an element or a method.  An object that is created inside of another one
is a node around the whole expression. -/
def suffixRule : Rule Phrase :=
  .choice
    [.seq
        [text ".",
          .choice
            [.seq [opt (see typeArguments), memberName, opt (see arguments)],
              text "this",
              .seq [text "super", ahead (text ".")],
              .seq [createdObject, .gather Construct.objectCreation.kind],
              stringLiteral]],
      .seq [text "[", see expression, text "]"],
      methodReference]

/-- The creation of an object or of an array. -/
def creationRule : Rule Phrase :=
  .choice
    [.node Construct.objectCreation.kind createdObject,
      form "array_creation_expression"
        [text "new", annotations, see simpleType,
          .choice
            [.seq
                [repeated (.seq [annotations, text "[", see expression, text "]"]),
                  opt (see dimensions)],
              .seq
                [see dimensions,
                  form "array_initializer"
                    [text "\x7b", list (see initializer), opt (text ","), text "\x7d"]]]]]

/-- The arguments of a call. -/
def argumentsRule : Rule Phrase :=
  form "argument_list" [text "(", list (see expression), text ")"]

/-- How a phrase is written. -/
def rule : Phrase → Rule Phrase
  | file => fileRule
  | modifiers => modifiersRule
  | annotation => annotationRule
  | annotationValue => annotationValueRule
  | type => typeRule
  | simpleType => simpleTypeRule
  | typeArguments => typeArgumentsRule
  | typeParameters => typeParametersRule
  | dimensions => dimensionsRule
  | typeDeclaration => typeDeclarationRule
  | classBody => classBodyRule
  | classMember => classMemberRule
  | interfaceMember => interfaceMemberRule
  | annotationTypeMember => annotationTypeMemberRule
  | enumConstant => enumConstantRule
  | method => methodRule
  | parameters => parametersRule
  | declarators => declaratorsRule
  | initializer => initializerRule
  | variableName => variableNameRule
  | block => blockRule
  | statement => statementRule
  | simpleStatement => simpleStatementRule
  | switch => switchRule
  | switchLabel => switchLabelRule
  | pattern => patternRule
  | expression => expressionRule
  | lambda => lambdaRule
  | convertedLambda => convertedLambdaRule
  | conditional => conditionalRule
  | tail => tailRule
  | operand => operandRule
  | prefixed => prefixedRule
  | access => accessRule
  | primary => primaryRule
  | suffix => suffixRule
  | creation => creationRule
  | arguments => argumentsRule

end Phrase

/-- The place of the end of a text. -/
def endOf (text : String) : Place :=
  text.toList.foldl Place.after {}

/-- The tree of a file in which nothing fits from some token on. -/
def brokenFile (text : String) (rest : List Token) : Cst :=
  let stop := endOf text
  let extent : Extent := ⟨0, stop.offset, ⟨0, 0⟩, stop.point⟩
  let leaf := match rest with
    | t :: _ => Cst.mk Construct.error.kind t.extent true false []
    | [] =>
      .mk Construct.error.kind ⟨stop.offset, stop.offset, stop.point, stop.point⟩ true false []
  .mk Construct.program.kind extent true false [leaf]

/-- Reads a file. -/
def grammar : Grammar := fun text =>
  match Rule.read Phrase.rule (.named .file) (Token.scan text) with
  | .ok trees => trees.head?
  | .error rest => some (brokenFile text rest)

end ModifierLint.Java
