/-
# Entries in the order of their keys' first writing

Mappings are lists of entries.  Writing to a key that is present keeps the entry's place, and a new
key goes to the end.  What counts as the same key is an argument.
-/

namespace ModifierLint.Keyed

variable {κ ν : Type}

/-- The value of the first entry whose key passes the test. -/
def find? (test : κ → Bool) : List (κ × ν) → Option ν
  | [] => none
  | (k, v) :: rest => if test k then some v else find? test rest

/-- Whether some key passes the test. -/
def has (test : κ → Bool) (entries : List (κ × ν)) : Bool :=
  (find? test entries).isSome

/-- Writes a value under a key: in place if the key is present, else at the end. -/
def put (same : κ → κ → Bool) (key : κ) (value : ν) : List (κ × ν) → List (κ × ν)
  | [] => [(key, value)]
  | (k, v) :: rest =>
    if same k key then (k, value) :: rest else (k, v) :: put same key value rest

/-- Writes the entries of one mapping into another, in order. -/
def putAll (same : κ → κ → Bool) (entries added : List (κ × ν)) : List (κ × ν) :=
  added.foldl (fun entries (k, v) => put same k v entries) entries

/-- The entries that remain without the first key that passes the test. -/
def remove (test : κ → Bool) : List (κ × ν) → List (κ × ν)
  | [] => []
  | (k, v) :: rest => if test k then rest else (k, v) :: remove test rest

/-- The keys in order. -/
def keys (entries : List (κ × ν)) : List κ :=
  entries.map Prod.fst

end ModifierLint.Keyed
