/-
# Paths

A path is a root (empty for relative paths) and the parts between slashes.  Empty parts and single
dots mean nothing and are left out; double dots are kept, because what they mean depends on the
files.
-/

namespace ModifierLint

/-- A path. -/
structure Path where
  root : String
  parts : List String
  deriving Repr, DecidableEq, Inhabited

namespace Path

/-- The root that slashes at the front of a text name: two are a root of their own. -/
def rootOf (s : List Char) : String :=
  match (s.takeWhile (· = '/')).length with
  | 0 => ""
  | 2 => "//"
  | _ => "/"

/-- The path that a text names. -/
def ofString (s : String) : Path where
  root := rootOf s.toList
  parts := (s.splitOn "/").filter fun part => part ≠ "" && part ≠ "."

/-- The text of a path; the path without parts is a dot. -/
def toString (p : Path) : String :=
  if p.root.isEmpty && p.parts.isEmpty then "." else p.root ++ String.intercalate "/" p.parts

/-- A path below another. -/
def append (p : Path) (part : String) : Path :=
  { p with parts := p.parts ++ [part] }

/-- The last part. -/
def fileName (p : Path) : String :=
  p.parts.getLastD ""

/-- The ending of a name from its last dot, if characters stand on both sides of the dot. -/
def suffixOf (name : String) : String :=
  let reversed := name.toList.reverse
  let ending := reversed.takeWhile (· != '.')
  let before := (reversed.dropWhile (· != '.')).drop 1
  if ending.isEmpty || before.isEmpty then "" else String.ofList ('.' :: ending.reverse)

/-- The ending of the last part. -/
def suffix (p : Path) : String :=
  suffixOf p.fileName

/-- Whether the first list of parts comes before the second, or they are equal. -/
def partsLe : List String → List String → Bool
  | [], _ => true
  | _ :: _, [] => false
  | a :: as, b :: bs => if a = b then partsLe as bs else a < b

/-- Paths are ordered by parts, the root counting as the first. -/
def le (p q : Path) : Bool :=
  let all (p : Path) := if p.root.isEmpty then p.parts else p.root :: p.parts
  partsLe (all p) (all q)

end Path

end ModifierLint
