/-
# Following the advice of the check

The check asks for an explicit `static`.  Here declarations get one: a keyword at the end of their
first list of modifiers, or a new list in front of all else if they have none (`Added.into`).  A
repaired tree (`repair`) has such keywords at any occurrences, which go by their numbers in the tree
as it was.

A repair inserts nodes, so it shifts numbers and changes links.  It leaves alone what the rule looks
at: the kinds of a node's children other than its lists of modifiers (`hasChild_repair`), hence
which nodes bound a scope, and the first list of modifiers of every other node
(`saysStatic_repair`).  So the violations in the repaired tree are those at the occurrences that got
no keyword (`ImpliedStatic.found_repair`), by induction on the tree, with the innermost type as the
attribute that both trees inherit alike.
-/
import ModifierLint.Proofs.Java.Tokens
import ModifierLint.Proofs.Tree.Segments

namespace ModifierLint.Java

/-! ## Repaired trees -/

/-- An added keyword, and the list for it where there is none: what they cover and where. -/
structure Added where
  span : Span
  text : Option String
  listSpan : Span
  listText : Option String

namespace Added

/-- The keyword. -/
def keyword (a : Added) : Node :=
  .mk "static" a.span a.text []

/-- A list of modifiers that holds the keyword alone. -/
def list (a : Added) : Node :=
  .mk "modifiers" a.listSpan a.listText [a.keyword]

/-- The list with the keyword at its end. -/
def extend (a : Added) (list : Node) : Node :=
  .mk list.kind list.span list.text (list.children ++ [a.keyword])

/-- Puts the keyword at the end of the first list of modifiers. -/
def atEnd (a : Added) : List Node → List Node
  | [] => []
  | n :: rest => if n.kind = "modifiers" then a.extend n :: rest else n :: atEnd a rest

/-- Puts the keyword among the children of a declaration. -/
def into (a : Added) (children : List Node) : List Node :=
  if ∃ n ∈ children, n.kind = "modifiers" then a.atEnd children else a.list :: children

end Added

mutual

/-- The tree in which the occurrences with certain numbers got a keyword; `number` is the number of
the root. -/
def repair (added : Nat → Option Added) (number : Nat) : Node → Node
  | .mk kind span text children =>
    .mk kind span text ((added number).elim id Added.into (repairAll added (number + 1) children))

/-- The repaired siblings, the first of which has the number `number`. -/
def repairAll (added : Nat → Option Added) (number : Nat) : List Node → List Node
  | [] => []
  | n :: rest => repair added number n :: repairAll added (number + n.size) rest

end

/-- A keyword for the occurrence with one number. -/
def Added.only (a : Added) (i : Nat) : Nat → Option Added :=
  fun j => if j = i then some a else none

variable {added : Nat → Option Added} {a : Added} {r : Rules} {owner : Option String}

theorem children_repair (number : Nat) (n : Node) : (repair added number n).children =
    (added number).elim id Added.into (repairAll added (number + 1) n.children) := by
  cases n; rfl

@[simp] theorem kind_repair (number : Nat) (n : Node) : (repair added number n).kind = n.kind := by
  cases n; rfl

@[simp] theorem span_repair (number : Nat) (n : Node) : (repair added number n).span = n.span := by
  cases n; rfl

/-! ## What a keyword changes among the children -/

theorem map_kind_atEnd (a : Added) (ns : List Node) :
    (a.atEnd ns).map Node.kind = ns.map Node.kind := by
  induction ns with
  | nil => rfl
  | cons n rest ih =>
      rw [Added.atEnd]
      split
      · rfl
      · rw [List.map_cons, List.map_cons, ih]

/-- Children of other kinds than lists of modifiers do not come or go. -/
theorem hasChild_into {kind : String} (other : kind ≠ "modifiers") (a : Added) (ns : List Node) :
    (∃ c ∈ a.into ns, c.kind = kind) ↔ ∃ c ∈ ns, c.kind = kind := by
  have kinds (ms : List Node) : (∃ c ∈ ms, c.kind = kind) ↔ kind ∈ ms.map Node.kind :=
    List.mem_map.symm
  rw [kinds, kinds, Added.into]
  split
  · rw [map_kind_atEnd]
  · rw [List.map_cons, List.mem_cons]
    constructor
    · rintro (new | there)
      · exact absurd new other
      · exact there
    · exact .inr

theorem find?_atEnd (a : Added) {ns : List Node} (there : ∃ n ∈ ns, n.kind = "modifiers") :
    ∃ list, (a.atEnd ns).find? (fun c => c.kind = "modifiers") = some list ∧
      a.keyword ∈ list.children := by
  induction ns with
  | nil =>
      obtain ⟨n, member, -⟩ := there
      cases member
  | cons n rest ih =>
      rw [Added.atEnd]
      by_cases here : n.kind = "modifiers"
      · rw [if_pos here]
        refine ⟨_, List.find?_cons_of_pos (decide_eq_true here), ?_⟩
        exact List.mem_append_right _ (List.mem_singleton_self _)
      · rw [if_neg here, List.find?_cons_of_neg (by simpa using here)]
        obtain ⟨m, member, kind⟩ := there
        rcases List.mem_cons.1 member with rfl | later
        · exact absurd kind here
        · exact ih ⟨m, later, kind⟩

/-- A declaration that got a keyword says `static`. -/
theorem saysStatic_into (a : Added) (kind : String) (span : Span) (text : Option String)
    (ns : List Node) : SaysStatic (.mk kind span text (a.into ns)) := by
  have found : ∃ list, (a.into ns).find? (fun c => c.kind = "modifiers") = some list ∧
      a.keyword ∈ list.children := by
    rw [Added.into]
    split
    · next there => exact find?_atEnd a there
    · exact ⟨a.list, rfl, List.mem_singleton_self _⟩
  obtain ⟨list, first, holds⟩ := found
  rw [SaysStatic, Node.children, first]
  exact ⟨a.keyword, holds, rfl⟩

/-! ## What a repair leaves alone -/

theorem map_kind_repairAll (number : Nat) (ns : List Node) :
    (repairAll added number ns).map Node.kind = ns.map Node.kind := by
  induction ns generalizing number with
  | nil => rfl
  | cons n rest ih => rw [repairAll, List.map_cons, List.map_cons, kind_repair, ih]

theorem hasChild_repair {kind : String} (other : kind ≠ "modifiers") (number : Nat) (n : Node) :
    (∃ c ∈ (repair added number n).children, c.kind = kind) ↔ ∃ c ∈ n.children, c.kind = kind := by
  have inside : (∃ c ∈ repairAll added (number + 1) n.children, c.kind = kind) ↔
      ∃ c ∈ n.children, c.kind = kind := by
    rw [← List.mem_map, ← List.mem_map, map_kind_repairAll]
  rw [children_repair, ← inside]
  cases added number with
  | none => exact Iff.rfl
  | some a => exact hasChild_into other a _

theorem boundsScope_repair (number : Nat) (n : Node) :
    BoundsScope (repair added number n) ↔ BoundsScope n := by
  rw [BoundsScope, BoundsScope, kind_repair, hasChild_repair (by decide)]

/-- The first child of a kind is repaired in its place. -/
theorem find?_repairAll (added : Nat → Option Added) (test : String → Bool) (ns : List Node) :
    ∀ number : Nat,
      (ns.find? (test ·.kind) = none ∧
        (repairAll added number ns).find? (test ·.kind) = none) ∨
      ∃ m k, ns.find? (test ·.kind) = some m ∧
        (repairAll added number ns).find? (test ·.kind) = some (repair added k m) := by
  induction ns with
  | nil =>
      intro number
      exact .inl ⟨rfl, rfl⟩
  | cons n rest ih =>
      intro number
      rw [repairAll, List.find?_cons, List.find?_cons, kind_repair]
      cases test n.kind with
      | true => exact .inr ⟨n, number, rfl, rfl⟩
      | false => exact ih (number + n.size)

/-- A node says `static` in the repaired tree if it got a keyword or said so before. -/
theorem saysStatic_repair (number : Nat) (n : Node) :
    SaysStatic (repair added number n) ↔ (added number).isSome ∨ SaysStatic n := by
  cases given : added number with
  | some a =>
      have said : SaysStatic (repair added number n) := by
        cases n
        rw [repair, given]
        exact saysStatic_into a _ _ _ _
      exact iff_of_true said (.inl rfl)
  | none =>
      have same : (repair added number n).children = repairAll added (number + 1) n.children := by
        rw [children_repair, given]
        rfl
      have lists := find?_repairAll added (decide <| · = "modifiers") n.children
        (number + 1)
      rw [SaysStatic, SaysStatic, same]
      rcases lists with ⟨before, after⟩ | ⟨m, k, before, after⟩
      · simp [before, after]
      · simp only [before, after, hasChild_repair (show "static" ≠ "modifiers" by decide)]
        simp

/-- The violations in the repaired tree are at the nodes that got no keyword. -/
theorem violated_repair (r : Rules) (owner : Option String) (number : Nat) (n : Node) :
    r.Violated owner (repair added number n) ↔ added number = none ∧ r.Violated owner n := by
  rw [Rules.Violated, Rules.Violated, kind_repair, saysStatic_repair, not_or,
    Option.not_isSome_iff_eq_none]
  constructor
  · rintro ⟨inside, ruled, untouched, silent⟩
    exact ⟨untouched, inside, ruled, silent⟩
  · rintro ⟨untouched, inside, ruled, silent⟩
    exact ⟨inside, ruled, untouched, silent⟩

/-! ## The inserted nodes -/

theorem violationsAmong_append (r : Rules) (owner : Option String) (ms ns : List Node) :
    r.violationsAmong owner (ms ++ ns) =
      r.violationsAmong owner ms ++ r.violationsAmong owner ns := by
  induction ms with
  | nil => rfl
  | cons m rest ih => rw [List.cons_append, Rules.violationsAmong, Rules.violationsAmong, ih,
      List.append_assoc]

/-- Modifiers and lists of them are no declarations and bound no scope. -/
theorem violations_of_modifier (r : Rules) (owner : Option String) (n : Node)
    (kind : n.kind = "modifiers" ∨ n.kind = "static") :
    r.violations owner n = r.violationsAmong owner n.children := by
  have lawful : ¬r.Violated owner n := by
    rintro ⟨-, ruled, -⟩
    rcases kind with kind | kind
    · simp [kind] at ruled
    · simp [kind] at ruled
  have open_ : ¬BoundsScope n := by
    rcases kind with kind | kind
    · simp [BoundsScope, kind]
    · simp [BoundsScope, kind]
  rw [Rules.violations_eq, if_neg lawful, if_neg open_, List.nil_append]

theorem violations_keyword : r.violations owner a.keyword = [] := by
  rw [violations_of_modifier r owner _ (.inr rfl)]
  rfl

theorem violations_extend {list : Node} (kind : list.kind = "modifiers") :
    r.violations owner (a.extend list) = r.violations owner list := by
  have kind' : (a.extend list).kind = "modifiers" := kind
  rw [violations_of_modifier r owner list (.inl kind),
    violations_of_modifier r owner _ (.inl kind'), Added.extend, Node.children,
    violationsAmong_append, Rules.violationsAmong, violations_keyword]
  exact List.append_nil _

theorem violationsAmong_atEnd (ns : List Node) :
    r.violationsAmong owner (a.atEnd ns) = r.violationsAmong owner ns := by
  induction ns with
  | nil => rfl
  | cons n rest ih =>
      rw [Added.atEnd]
      split
      · next kind => rw [Rules.violationsAmong, Rules.violationsAmong, violations_extend kind]
      · rw [Rules.violationsAmong, Rules.violationsAmong, ih]

/-- Putting a keyword among children adds no violation at them or below. -/
theorem violationsAmong_into (ns : List Node) :
    r.violationsAmong owner (a.into ns) = r.violationsAmong owner ns := by
  rw [Added.into]
  split
  · exact violationsAmong_atEnd ns
  · rw [Rules.violationsAmong, violations_of_modifier r owner _ (.inl rfl)]
    show r.violationsAmong owner [a.keyword] ++ _ = _
    rw [Rules.violationsAmong, violations_keyword]
    rfl

theorem violationsAmong_children_repair (number : Nat) (n : Node) :
    r.violationsAmong owner (repair added number n).children =
      r.violationsAmong owner (repairAll added (number + 1) n.children) := by
  rw [children_repair]
  cases added number with
  | none => rfl
  | some a => exact violationsAmong_into _

/-! ## The walk over the repaired tree -/

/-- Whether an occurrence got no keyword. -/
def untouched (added : Nat → Option Added) (h : Handle) : Bool :=
  (h.position.bind added).isNone

theorem untouched_only (a : Added) (i : Nat) (h : Handle) :
    untouched (a.only i) h = (h.position != some i) := by
  cases place : h.position with
  | none => simp [untouched, place]
  | some j =>
      by_cases same : j = i
      · simp [untouched, place, Added.only, same]
      · simp [untouched, place, Added.only, same]

namespace ImpliedStatic

variable {c : ImpliedStatic} {w : Walker} {t : SourceTree}

/-- One node of the induction: what is found at the node itself comes or goes with the keyword, and
what is below it inherits the same innermost type in both trees. -/
theorem found_repair_of_below (built : Walker.build [c.toCheck] = .ok w) {number : Nat}
    {parent : Option Nat} {n : Node} (here : t.entries[number]? = some ⟨n, parent⟩)
    (below : ((Handle.numbered (number + 1) (Node.preorders n.children)).filter
          (untouched added)).flatMap (w.findings t) =
        (c.rules.violationsAmong (ownerKind t (some number))
          (repairAll added (number + 1) n.children)).map (c.diagnostic t.filePath)) :
    ((Handle.numbered number n.preorder).filter (untouched added)).flatMap (w.findings t) =
      (c.rules.violations (ownerKind t parent) (repair added number n)).map
        (c.diagnostic t.filePath) := by
  have found := findings_eq built here
  have nodes : n.preorder = n :: Node.preorders n.children := by
    cases n
    rfl
  have same : c.diagnostic t.filePath (repair added number n) = c.diagnostic t.filePath n := by
    rw [diagnostic, diagnostic, span_repair]
  rw [ownerKind_some here] at below
  rw [nodes, Handle.numbered_cons, List.filter_cons, Rules.violations_eq, List.map_append,
    violationsAmong_children_repair]
  simp only [violated_repair, boundsScope_repair, kind_repair]
  cases given : added number with
  | none =>
      have kept : untouched added ⟨n, some number⟩ = true := by
        rw [untouched, Option.bind_some, given, Option.isNone_none]
      rw [if_pos kept, List.flatMap_cons, found, below]
      congr 1
      split
      · next violated => simp [violated, same]
      · next lawful => simp [lawful]
  | some a =>
      have dropped : ¬untouched added ⟨n, some number⟩ = true := by
        rw [untouched, Option.bind_some, given, Option.isNone_some]
        exact Bool.false_ne_true
      rw [if_neg dropped, below]
      simp

mutual

/-- The violations in a repaired subtree are what is found at its occurrences without a keyword,
before the repair. -/
theorem found_repair (built : Walker.build [c.toCheck] = .ok w) (added : Nat → Option Added)
    {number : Nat} {parent : Option Nat} : ∀ {n : Node},
    t.HasAt number (Entry.ofNode number parent n) →
      ((Handle.numbered number n.preorder).filter (untouched added)).flatMap (w.findings t) =
        (c.rules.violations (ownerKind t parent) (repair added number n)).map
          (c.diagnostic t.filePath)
  | .mk kind span text children, holds => by
      rw [Entry.ofNode_eq] at holds
      have inside : t.HasAt (number + 1) (Entry.ofNodes (number + 1) (some number) children) :=
        holds.tail
      exact found_repair_of_below built holds.head (found_repairAll built added inside)

theorem found_repairAll (built : Walker.build [c.toCheck] = .ok w) (added : Nat → Option Added)
    {number : Nat} {parent : Option Nat} : ∀ {ns : List Node},
    t.HasAt number (Entry.ofNodes number parent ns) →
      ((Handle.numbered number (Node.preorders ns)).filter (untouched added)).flatMap
          (w.findings t) =
        (c.rules.violationsAmong (ownerKind t parent) (repairAll added number ns)).map
          (c.diagnostic t.filePath)
  | [], _ => rfl
  | n :: ns, holds => by
      have here := found_repair built added holds.left
      have after := holds.right
      rw [Entry.length_ofNode] at after
      rw [Node.preorders, Handle.numbered_append, List.filter_append, List.flatMap_append,
        repairAll, Rules.violationsAmong, List.map_append, here, Node.length_preorder,
        found_repairAll built added after]

end

/-- A walk over a repaired tree reports what the check found before at the occurrences that got no
keyword, and nothing else. -/
theorem reported_repair (built : Walker.build [c.toCheck] = .ok w) (added : Nat → Option Added)
    (root : Node) (filePath : String) :
    (w.walk (.ofRoot (repair added 0 root) filePath)).failure = none ∧
    (w.walk (.ofRoot (repair added 0 root) filePath)).reported.toList =
      (((SourceTree.ofRoot root filePath).handles.filter (c.reports (.ofRoot root filePath))).filter
        (untouched added)).map fun h => c.diagnostic filePath h.node := by
  obtain ⟨calm, reported⟩ := walk_eq_violations built (.ofRoot (repair added 0 root) filePath)
  refine ⟨calm, reported.trans ?_⟩
  have found := found_repair built added (SourceTree.ofRoot root filePath).hasAt_root
  have each : w.findings (SourceTree.ofRoot root filePath) = fun h =>
      if c.reports (.ofRoot root filePath) h then [c.diagnostic filePath h.node] else [] :=
    funext (findings_eq_ite built _)
  rw [ownerKind_none, each, flatMap_ite_singleton, List.filter_filter] at found
  rw [List.filter_filter]
  simp only [Bool.and_comm] at found ⊢
  exact found.symm

/-- **Following the advice silences exactly that advice.**  A declaration that the check reports
gets an explicit `static`: then a walk reports at all other occurrences what it reported before, in
the same order, and nothing at this one.  If all reported declarations get one, nothing is
reported. -/
theorem walk_repair_silences (built : Walker.build [c.toCheck] = .ok w) (root : Node)
    (filePath : String) :
    (∀ (i : Nat) (h : Handle) (a : Added), (SourceTree.ofRoot root filePath).handle? i = some h →
      c.reports (.ofRoot root filePath) h = true →
      ∃ before after : List Handle,
        (SourceTree.ofRoot root filePath).handles.filter (c.reports (.ofRoot root filePath)) =
          before ++ h :: after ∧
        (w.walk (.ofRoot root filePath)).reported.toList =
          (before ++ h :: after).map (fun g => c.diagnostic filePath g.node) ∧
        (w.walk (.ofRoot (repair (a.only i) 0 root) filePath)).failure = none ∧
        (w.walk (.ofRoot (repair (a.only i) 0 root) filePath)).reported.toList =
          (before ++ after).map fun g => c.diagnostic filePath g.node) ∧
    ∀ added : Nat → Option Added,
      (∀ i, (added i).isSome ↔ ∃ h, (SourceTree.ofRoot root filePath).handle? i = some h ∧
        c.reports (.ofRoot root filePath) h = true) →
      (w.walk (.ofRoot (repair added 0 root) filePath)).failure = none ∧
      (w.walk (.ofRoot (repair added 0 root) filePath)).reported.toList = [] := by
  refine ⟨?_, ?_⟩
  · intro i h a there found
    obtain ⟨calm, reported⟩ := reported_repair built (a.only i) root filePath
    obtain ⟨before, after, whole, here, others⟩ := SourceTree.split_handles there
    have split := congrArg (List.filter (c.reports (.ofRoot root filePath))) whole
    rw [List.filter_append, List.filter_cons_of_pos found] at split
    have gone : ¬untouched (a.only i) h = true := by
      rw [untouched_only, here]
      simp
    have kept {gs : List Handle} (apart : ∀ g ∈ gs, g.position ≠ some i) :
        (gs.filter (c.reports (.ofRoot root filePath))).filter (untouched (a.only i)) =
          gs.filter (c.reports (.ofRoot root filePath)) := by
      refine List.filter_eq_self.2 fun g member => ?_
      rw [untouched_only]
      exact bne_iff_ne.2 (apart g (List.mem_filter.1 member).1)
    obtain ⟨earlier, later⟩ := List.forall_mem_append.1 others
    refine ⟨_, _, split, ?_, calm, ?_⟩
    · rw [reported_eq built, split]
      rfl
    · rw [reported, split, List.filter_append, List.filter_cons_of_neg gone, kept earlier,
        kept later]
  · intro added exactly
    obtain ⟨calm, reported⟩ := reported_repair built added root filePath
    refine ⟨calm, ?_⟩
    have none_left : ((SourceTree.ofRoot root filePath).handles.filter
        (c.reports (.ofRoot root filePath))).filter (untouched added) = [] := by
      refine List.filter_eq_nil_iff.2 fun h member => ?_
      obtain ⟨there, found⟩ := List.mem_filter.1 member
      obtain ⟨i, there⟩ := SourceTree.mem_handles.1 there
      have given := (exactly i).2 ⟨h, there, found⟩
      obtain ⟨e, -, rfl⟩ := SourceTree.handle?_eq_some.1 there
      rw [untouched, Option.bind_some, ← Option.not_isSome, given]
      exact Bool.false_ne_true
    rw [reported, none_left]
    rfl

/-- An interface that is a member of an enum. -/
def innerInterface : Node :=
  .mk "interface_declaration" ⟨3, 8, 3, 22⟩ none []

/-- An enum with a list of modifiers, which is a member of a class. -/
def publicEnum : Node :=
  .mk "enum_declaration" ⟨2, 4, 4, 5⟩ none
    [.mk "modifiers" ⟨2, 4, 2, 10⟩ none [.mk "public" ⟨2, 4, 2, 10⟩ none []],
     .mk "enum_body" ⟨2, 18, 4, 5⟩ none [innerInterface]]

/-- A class in which the enum and the interface within it both lack the modifier. -/
def nestedMembers : Node :=
  .mk "class_declaration" ⟨1, 0, 5, 1⟩ none [.mk "class_body" ⟨1, 8, 5, 1⟩ none [publicEnum]]

theorem walk_repair_silences_of_publicEnum :
    let c : ImpliedStatic := {}
    let t := SourceTree.ofRoot nestedMembers "A.java"
    let a : Added := ⟨⟨2, 11, 2, 17⟩, none, ⟨2, 11, 2, 17⟩, none⟩
    ∃ w, Walker.build [c.toCheck] = .ok w ∧
      t.handle? 2 = some ⟨publicEnum, some 2⟩ ∧ c.reports t ⟨publicEnum, some 2⟩ = true ∧
      ∃ before after : List Handle,
        (w.walk t).reported.toList =
          (before ++ ⟨publicEnum, some 2⟩ :: after).map (fun g => c.diagnostic "A.java" g.node) ∧
        (w.walk (.ofRoot (repair (a.only 2) 0 nestedMembers) "A.java")).reported.toList =
          (before ++ after).map fun g => c.diagnostic "A.java" g.node := by
  intro c t a
  obtain ⟨w, built⟩ := build_iff.2 (fits_of_default (c := c) rfl)
  have there : t.handle? 2 = some ⟨publicEnum, some 2⟩ := by
    rw [← SourceTree.getElem?_handles]
    rfl
  have found : c.reports t ⟨publicEnum, some 2⟩ = true := by decide +kernel
  obtain ⟨before, after, -, whole, -, rest⟩ :=
    (walk_repair_silences built nestedMembers "A.java").1 2 _ a there found
  exact ⟨w, built, there, found, before, after, whole, rest⟩

end ImpliedStatic

end ModifierLint.Java
