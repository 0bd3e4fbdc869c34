/-
# Syntax trees as documents

`Node.read` decodes a tree from a document: one record per node, with the children in a list.
-/
import ModifierLint.Schema.Read
import ModifierLint.Tree.Node

namespace ModifierLint

theorem Keyed.sizeOf_find? {κ ν : Type} [SizeOf κ] [SizeOf ν] {test : κ → Bool} {v : ν} :
    ∀ {entries : List (κ × ν)}, Keyed.find? test entries = some v → sizeOf v < sizeOf entries
  | [], h => by simp [Keyed.find?] at h
  | (k, w) :: rest, h => by
    simp only [Keyed.find?] at h
    split at h
    · cases h; simp; omega
    · have := sizeOf_find? h
      simp; omega

namespace Node

/-- The list under a name; anything else is no list. -/
def listUnder (entries : List (Value × Value)) (name : String) :
    { vs : List Value // sizeOf vs < sizeOf entries } ⊕ Bool :=
  match h : Value.get? entries name with
  | some (.list vs) => .inl ⟨vs, by
      have : sizeOf (Value.list vs) < sizeOf entries := Keyed.sizeOf_find? h
      simp at this; omega⟩
  | some _ => .inr true
  | none => .inr false

/-- Decodes a node and the nodes below it. -/
def read (v : Value) : Schema.Checked Node :=
  match v with
  | .map entries =>
    (fun kind startLine endLine startColumn endColumn children text =>
        mk kind ⟨startLine, startColumn, endLine, endColumn⟩ text children)
      <$> Schema.required entries "node_type" Schema.string
      <*> Schema.required entries "start_line" Schema.integer
      <*> Schema.required entries "end_line" Schema.integer
      <*> Schema.required entries "start_column" Schema.integer
      <*> Schema.required entries "end_column" Schema.integer
      <*> Schema.Checked.at_ (.name "children") (match listUnder entries "children" with
        | .inl ⟨vs, _h⟩ => Schema.Checked.items 0 (vs.attach.map fun ⟨c, _hc⟩ => read c)
        | .inr true => Schema.Checked.complain .tupleType
        | .inr false => pure [])
      <*> Schema.optional entries "text" none (Schema.nullable Schema.string)
  | _ => Schema.Checked.complain (.modelType "ASTNode")
termination_by sizeOf v
decreasing_by
  have := List.sizeOf_lt_of_mem _hc
  simp_all; omega

end Node

end ModifierLint
