/-
# Attributes of arguments

A field of a template can ask about an argument: `{0.__class__}` is the type of texts, and
`{0.upper.__name__}` the name of an operation on them.  What such a question leads to is a
`Subject`.  `Subject.attribute?` answers one question, so that a chain of them is followed step by
step.
-/
import ModifierLint.Text.Quoted

namespace ModifierLint.Template

/-! ## Types and operations -/

/-- The types of subjects. -/
inductive Kind
  | text
  | object
  | type
  | tuple
  | null
  | function
  | method
  | slot
  | boundSlot
  deriving Repr, DecidableEq

namespace Kind

/-- The name of a type. -/
def name : Kind → String
  | text => "str"
  | object => "object"
  | type => "type"
  | tuple => "tuple"
  | null => "NoneType"
  | function => "builtin_function_or_method"
  | method => "method_descriptor"
  | slot => "wrapper_descriptor"
  | boundSlot => "method-wrapper"

/-- What a type says about itself, as far as that is kept. -/
def documentation? : Kind → Option String
  | text => some ("str(object='') -> str\nstr(bytes_or_buffer[, encoding[, errors]]) -> str\n\n" ++
      "Create a new string object from the given object. If encoding or\n" ++
      "errors is specified, then the object must expose a data buffer\n" ++
      "that will be decoded using the given encoding and error handler.\n" ++
      "Otherwise, returns the result of object.__str__() (if defined)\nor repr(object).\n" ++
      "encoding defaults to sys.getdefaultencoding().\nerrors defaults to 'strict'.")
  | object => some ("The base class of the class hierarchy.\n\n" ++
      "When called, it accepts no arguments and returns a new featureless\n" ++
      "instance that has no instance attributes and cannot be given any.\n")
  | type => some ("type(object) -> the object's type\n" ++
      "type(name, bases, dict, **kwds) -> a new type")
  | _ => none

/-- The types that a type extends. -/
def parents : Kind → List Kind
  | object => []
  | _ => [object]

end Kind

/-- How an operation on texts is provided. -/
inductive Provision
  | method
  | slot
  /-- By the type, not by its values. -/
  | static
  deriving Repr, DecidableEq

/-- An operation on texts, with the type that provides it. -/
structure Operation where
  name : String
  owner : Kind
  provision : Provision
  deriving Repr, DecidableEq

namespace Operation

/-- The operations that texts provide. -/
def methods : List String :=
  ["__format__", "__getnewargs__", "__sizeof__", "capitalize", "casefold", "center", "count",
    "encode", "endswith", "expandtabs", "find", "format", "format_map", "index", "isalnum",
    "isalpha", "isascii", "isdecimal", "isdigit", "isidentifier", "islower", "isnumeric",
    "isprintable", "isspace", "istitle", "isupper", "join", "ljust", "lower", "lstrip",
    "partition", "removeprefix", "removesuffix", "replace", "rfind", "rindex", "rjust",
    "rpartition", "rsplit", "rstrip", "split", "splitlines", "startswith", "strip", "swapcase",
    "title", "translate", "upper", "zfill"]

/-- The operations behind operators, comparisons and the like. -/
def slots : List String :=
  ["__add__", "__contains__", "__eq__", "__ge__", "__getattribute__", "__getitem__", "__gt__",
    "__hash__", "__iter__", "__le__", "__len__", "__lt__", "__mod__", "__mul__", "__ne__",
    "__repr__", "__rmod__", "__rmul__", "__str__"]

/-- The operations of the type itself. -/
def statics : List String :=
  ["__init_subclass__", "__new__", "__subclasshook__", "maketrans"]

/-- The operations that every value has. -/
def commonMethods : List String := ["__dir__", "__getstate__", "__reduce__", "__reduce_ex__"]

/-- The operations behind changes that every value has. -/
def commonSlots : List String := ["__delattr__", "__init__", "__setattr__"]

/-- The operations on texts. -/
def all : List Operation :=
  methods.map (⟨·, .text, .method⟩) ++ slots.map (⟨·, .text, .slot⟩) ++
    statics.map (⟨·, .text, .static⟩) ++ commonMethods.map (⟨·, .object, .method⟩) ++
    commonSlots.map (⟨·, .object, .slot⟩)

/-- The operation of a name. -/
def ofName? (name : String) : Option Operation :=
  all.find? (·.name == name)

end Operation

/-! ## Subjects -/

/-- What a field of a template is about. -/
inductive Subject
  | text (s : String)
  | null
  | type (k : Kind)
  | types (ks : List Kind)
  /-- An operation, of a text or of the type of texts. -/
  | operation (o : Operation) (receiver : Option String)
  deriving Repr, DecidableEq

namespace Subject

/-- The type of a subject. -/
def kind : Subject → Kind
  | text _ => .text
  | null => .null
  | type _ => .type
  | types _ => .tuple
  | operation o receiver =>
    match o.provision, receiver with
    | .static, _ | .method, some _ => .function
    | .method, none => .method
    | .slot, some _ => .boundSlot
    | .slot, none => .slot

/-- A type in text. -/
def typeText (k : Kind) : String :=
  "<class " ++ Text.Quoted.text k.name ++ ">"

/-- A subject as a quotation shows it. -/
def quoted : Subject → String
  | text s => Text.Quoted.text s
  | null => "None"
  | type k => typeText k
  | types [k] => "(" ++ typeText k ++ ",)"
  | types ks => "(" ++ String.intercalate ", " (ks.map typeText) ++ ")"
  | operation o receiver =>
    let name := Text.Quoted.text o.name
    match o.provision, receiver with
    | .method, none => "<method " ++ name ++ " of " ++ Text.Quoted.text o.owner.name ++ " objects>"
    | .slot, none =>
      "<slot wrapper " ++ name ++ " of " ++ Text.Quoted.text o.owner.name ++ " objects>"
    | .slot, some _ => "<method-wrapper " ++ name ++ " of str object>"
    | .method, some _ => "<built-in method " ++ o.name ++ " of str object>"
    | .static, _ => "<built-in method " ++ o.name ++ " of type object>"

/-- A subject as it stands in a message: texts stand for themselves. -/
def display : Subject → String
  | text s => s
  | subject => subject.quoted

/-- The full name of an operation; operations of a value belong to the value's type. -/
def fullName (o : Operation) (receiver : Option String) : String :=
  let owner := if receiver.isSome && o.provision ≠ .slot then Kind.text else o.owner
  owner.name ++ "." ++ o.name

/-- What a type answers about itself. -/
def ofType? (k : Kind) (name : String) : Option Subject :=
  match name with
  | "__name__" | "__qualname__" => some (text k.name)
  | "__module__" => some (text "builtins")
  | "__doc__" => k.documentation?.map text
  | "__base__" => some (k.parents.head?.elim null type)
  | "__bases__" => some (types k.parents)
  | "__mro__" => some (types (k :: k.parents))
  | "__text_signature__" => some null
  | _ =>
    (Operation.ofName? name).bind fun o =>
      if k = .text || k = o.owner then some (operation o none) else none

/-- What an operation answers about itself. -/
def ofOperation? (o : Operation) (receiver : Option String) (name : String) : Option Subject :=
  match name with
  | "__name__" => some (text o.name)
  | "__qualname__" => some (text (fullName o receiver))
  | "__objclass__" =>
    if (operation o receiver).kind = .function then none else some (type o.owner)
  | "__self__" =>
    if o.provision ≠ .static then receiver.map text
    else some (if o.name = "maketrans" then null else type .text)
  | "__module__" => if (operation o receiver).kind = .function then some null else none
  | _ => none

/-- The attribute of a name. -/
def attribute? (subject : Subject) (name : String) : Option Subject :=
  if name = "__class__" then some (type subject.kind)
  else
    match subject with
    | text s =>
      if name = "__doc__" then Kind.text.documentation?.map text
      else (Operation.ofName? name).map fun o => operation o (some s)
    | null => if name = "__doc__" then some null else none
    | type k => ofType? k name
    | types _ => none
    | operation o receiver => ofOperation? o receiver name

end Subject

end ModifierLint.Template
