/-
# Tokens of the check

The check for implied static modifiers can be given tokens, but no choice: it handles two kinds of
declarations and needs both.  A walker takes it with its default tokens, or with any list of tokens
that names these two kinds and nothing else, in whatever order and however often
(`ImpliedStatic.tokenError?_iff`).

So a walker gives the check no node that it could refuse.  What it reports is then a matter of the
check alone: `ImpliedStatic.reports` tells at which occurrences it finds something, and a walk
reports one diagnostic at each of them, in pre-order (`ImpliedStatic.reported_eq`).
-/
import ModifierLint.Proofs.Java.Violations

namespace ModifierLint.Java.ImpliedStatic

variable {c : ImpliedStatic} {w : Walker} {t : SourceTree}

/-! ## Which tokens fit -/

theorem mem_acceptable {kind : String} :
    kind ∈ acceptable ↔ kind = "enum_declaration" ∨ kind = "interface_declaration" := by
  simp [acceptable, Construct.kind]

/-- There is no rule for other kinds. -/
theorem enforces?_of_not_acceptable (c : ImpliedStatic) {kind : String}
    (other : kind ∉ acceptable) : c.enforces? kind = none := by
  rw [mem_acceptable, not_or] at other
  exact (if_neg other.1).trans (if_neg other.2)

/-- The tokens fit if they are the kinds that the check handles, or none are configured. -/
theorem tokenError?_toCheck (c : ImpliedStatic) : c.toCheck.tokenError? = none ↔
    ∀ tokens, c.tokens = some tokens →
      (∀ kind ∈ tokens, kind ∈ acceptable) ∧ ∀ kind ∈ acceptable, kind ∈ tokens := by
  rw [Check.tokenError?_eq_none]
  cases configured : c.tokens with
  | none =>
      have effective : c.toCheck.effectiveTokens = acceptable := by
        rw [Check.effectiveTokens, toCheck, configured]
        rfl
      rw [effective]
      refine iff_of_true ⟨fun _ there => there, fun _ there => there⟩ ?_
      intro tokens given
      cases given
  | some tokens =>
      have effective : c.toCheck.effectiveTokens = tokens := by
        rw [Check.effectiveTokens, toCheck, configured]
        rfl
      rw [effective]
      constructor
      · rintro fits _ ⟨⟩
        exact fits
      · intro fits
        exact fits tokens rfl

/-- Tokens that are configured fit exactly if they are, as a set, the two kinds. -/
theorem tokenError?_iff : c.toCheck.tokenError? = none ↔
    c.tokens = none ∨ ∃ tokens, c.tokens = some tokens ∧
      ∀ kind, kind ∈ tokens ↔ kind = "enum_declaration" ∨ kind = "interface_declaration" := by
  simp only [tokenError?_toCheck, ← mem_acceptable]
  constructor
  · intro fits
    cases configured : c.tokens with
    | none => exact .inl rfl
    | some tokens =>
        obtain ⟨within, covers⟩ := fits tokens configured
        exact .inr ⟨tokens, rfl, fun kind => ⟨within kind, covers kind⟩⟩
  · rintro (default | ⟨tokens, configured, same⟩) given there
    · rw [default] at there
      cases there
    · rw [configured] at there
      cases there
      exact ⟨fun kind => (same kind).1, fun kind => (same kind).2⟩

/-- A walker with the check alone is built exactly if its tokens fit. -/
theorem build_iff : (∃ w, Walker.build [c.toCheck] = .ok w) ↔ c.toCheck.tokenError? = none := by
  constructor
  · rintro ⟨w, built⟩
    refine w.valid _ ?_
    rw [Walker.build_eq_ok built]
    exact List.mem_singleton_self _
  · intro fits
    have all : ∀ check ∈ [c.toCheck], check.tokenError? = none := by
      intro check member
      obtain rfl := List.mem_singleton.1 member
      exact fits
    exact ⟨_, Walker.build_of_fits all⟩

/-! ## What a walk reports -/

/-- Whether the check finds something at a node. -/
def reports (c : ImpliedStatic) (t : SourceTree) (h : Handle) : Bool :=
  !(c.visit t h).findings.isEmpty

/-- A visit finds one thing at most: that the node itself lacks the modifier. -/
theorem findings_visit (c : ImpliedStatic) (t : SourceTree) (h : Handle) :
    (c.visit t h).findings =
      if c.reports t h then [⟨h.node, "class.implied.modifier", ["static"]⟩] else [] := by
  have either : (c.visit t h).findings = [] ∨
      (c.visit t h).findings = [⟨h.node, "class.implied.modifier", ["static"]⟩] := by
    unfold visit
    split
    · exact .inl rfl
    · split
      · exact .inl rfl
      · split
        · exact .inl rfl
        · split
          · exact .inr rfl
          · exact .inl rfl
  rcases either with nothing | one
  · simp [reports, nothing]
  · simp [reports, one]

/-- The check finds nothing at nodes of other kinds. -/
theorem kind_of_reports {h : Handle} (found : c.reports t h = true) : h.node.kind ∈ acceptable := by
  refine Classical.byContradiction fun foreign => ?_
  have unknown := c.enforces?_of_not_acceptable foreign
  have nothing : (c.visit t h).findings = [] := by
    unfold visit
    rw [unknown]
    split
    · rfl
    · split
      · rfl
      · rfl
  rw [reports, nothing] at found
  cases found

/-- A walker with the check alone finds what the check finds. -/
theorem findings_eq_ite (built : Walker.build [c.toCheck] = .ok w) (t : SourceTree) (h : Handle) :
    w.findings t h = if c.reports t h then [c.diagnostic t.filePath h.node] else [] := by
  have checks := Walker.build_eq_ok built
  have fits : c.toCheck.tokenError? = none := build_iff.1 ⟨w, built⟩
  have asked := (mem_effectiveTokens fits : h.node.kind ∈ _ ↔ _)
  have visited : c.toCheck.visit t h = c.visit t h := rfl
  rw [Walker.findings, Walker.checksFor, checks]
  by_cases handled : h.node.kind ∈ acceptable
  · simp only [List.filter, List.contains_eq_mem, asked.2 handled, decide_true,
      List.flatMap_singleton, Check.diagnostics, visited, findings_visit]
    split
    · rfl
    · rfl
  · have nothing : ¬c.reports t h = true := fun found => handled (kind_of_reports found)
    simp [asked, handled, nothing]

theorem flatMap_ite_singleton {α β : Type} (keep : α → Bool) (f : α → β) (l : List α) :
    l.flatMap (fun a => if keep a then [f a] else []) = (l.filter keep).map f := by
  induction l with
  | nil => rfl
  | cons a l ih =>
      rw [List.flatMap_cons, ih]
      cases kept : keep a with
      | false => simp [kept]
      | true => simp [kept]

/-- A walk reports one diagnostic at each occurrence at which the check finds something. -/
theorem reported_eq (built : Walker.build [c.toCheck] = .ok w) (t : SourceTree) :
    (w.walk t).reported.toList =
      (t.handles.filter (c.reports t)).map fun h => c.diagnostic t.filePath h.node := by
  have found : w.findings t = fun h =>
      if c.reports t h then [c.diagnostic t.filePath h.node] else [] :=
    funext (findings_eq_ite built t)
  rw [Walker.reported_of_accepts (quiet_of_built built) (accepts_of_built built t), found,
    flatMap_ite_singleton]

/-- **The check runs with its own two tokens or not at all, and then it always comes to an end.**
A walker with the check alone is built if and only if no tokens are configured, or the configured
ones are the two kinds that it handles, in any order and any number of times.  Whatever its rules
and its severity, such a walker makes all calls of every tree without a failure.  It reports what
is found at the occurrences of the tree, in pre-order, and finds one thing at most at each. -/
theorem build_iff_tokens_and_walks_end (c : ImpliedStatic) :
    ((∃ w, Walker.build [c.toCheck] = .ok w) ↔
      c.tokens = none ∨ ∃ tokens, c.tokens = some tokens ∧
        ∀ kind, kind ∈ tokens ↔ kind = "enum_declaration" ∨ kind = "interface_declaration") ∧
    ∀ w, Walker.build [c.toCheck] = .ok w → ∀ t : SourceTree,
      (w.walk t).failure = none ∧ (w.walk t).events.toList = w.calls t.root ∧
      (w.walk t).reported.toList = t.handles.flatMap (w.findings t) ∧
      ∀ h ∈ t.handles, (w.findings t h).length ≤ 1 := by
  refine ⟨build_iff.trans tokenError?_iff, ?_⟩
  intro w built t
  have accepted := accepts_of_built built t
  have walked := Walker.walk_of_accepts accepted
  refine ⟨?_, ?_, Walker.reported_of_accepts (quiet_of_built built) accepted, ?_⟩
  · rw [walked]
  · rw [walked]
  · intro h _
    rw [findings_eq_ite built]
    split
    · exact Nat.le_refl 1
    · exact Nat.zero_le 1

/-- A class with an enum and an interface in it, only the latter of which says `static`. -/
def classWithTwoMembers : Node :=
  .mk "class_declaration" ⟨1, 0, 4, 1⟩ none
    [.mk "class_body" ⟨1, 8, 4, 1⟩ none
      [.mk "enum_declaration" ⟨2, 4, 2, 13⟩ none [],
       .mk "interface_declaration" ⟨3, 4, 3, 25⟩ none
        [.mk "modifiers" ⟨3, 4, 3, 10⟩ none [.mk "static" ⟨3, 4, 3, 10⟩ none []]]]]

theorem walks_end_of_repeatedTokens :
    ∃ w, Walker.build [({ tokens := some ["interface_declaration", "enum_declaration",
        "interface_declaration"] } : ImpliedStatic).toCheck] = .ok w ∧
      (w.walk (.ofRoot classWithTwoMembers "A.java")).failure = none := by
  have all := build_iff_tokens_and_walks_end
    { tokens := some ["interface_declaration", "enum_declaration", "interface_declaration"] }
  have same (kind : String) :
      kind ∈ ["interface_declaration", "enum_declaration", "interface_declaration"] ↔
        kind = "enum_declaration" ∨ kind = "interface_declaration" := by
    grind
  obtain ⟨w, built⟩ := all.1.2 (.inr ⟨_, rfl, same⟩)
  exact ⟨w, built, (all.2 w built _).1⟩

end ModifierLint.Java.ImpliedStatic
