/-
# Histories of a registry

A registry is changed by registrations and removals, in any order.  Of each extension the history
tells who has it: the plugin of the last registration that declares the extension.  What became of
this plugin afterwards (`Operation.fate`) decides whether the extension is supported.

Two things can happen to a plugin, and they differ.  A removal takes its extensions away, and no
other plugin gets them back, even if it declares them and was there before.  A later registration
under the same name puts another plugin in its place and leaves the extensions where they are,
declared or not; nothing is stated about such extensions.  For both reasons not every state is
consistent.
-/
import ModifierLint.Proofs.Plugin.Registration

namespace ModifierLint.Registry

/-- The registry after operations on the empty one. -/
def after (ops : List Operation) : Registry :=
  ops.foldl perform {}

theorem orderly_foldl {ops : List Operation} (textual : ∀ op ∈ ops, op.Textual) :
    ∀ {r : Registry}, r.Orderly → (ops.foldl perform r).Orderly := by
  induction ops with
  | nil =>
      intro r orderly
      exact orderly
  | cons op rest ih =>
      intro r orderly
      exact ih (fun o ho => textual o (List.mem_cons_of_mem _ ho))
        (orderly.perform (textual op List.mem_cons_self))

theorem orderly_after {ops : List Operation} (textual : ∀ op ∈ ops, op.Textual) :
    (after ops).Orderly :=
  orderly_foldl textual orderly_empty

/-- What became of the plugin of a language. -/
inductive Fate
  | kept
  | removed
  | replaced
  deriving Repr, DecidableEq

/-- The first operation on a language decides what becomes of its plugin. -/
def fate (language : String) : List Operation → Fate
  | [] => .kept
  | .register p :: rest => if p.language = language then .replaced else fate language rest
  | .unregister other :: rest => if other = language then .removed else fate language rest

/-- No registration among the operations declares the extension. -/
def Undeclared (extension : String) (ops : List Operation) : Prop :=
  ∀ p, .register p ∈ ops → p.declares extension = false

theorem Undeclared.tail {extension : String} {op : Operation} {rest : List Operation}
    (undeclared : Undeclared extension (op :: rest)) : Undeclared extension rest :=
  fun p member => undeclared p (List.mem_cons_of_mem _ member)

variable {r : Registry} {p : Plugin} {extension language : String}

/-- A registration that does not declare the extension leaves it alone. -/
theorem language?_register_of_undeclared (textual : p.Textual)
    (undeclared : p.declares extension = false) (r : Registry) :
    (r.perform (.register p)).language? (.str extension) = r.language? (.str extension) := by
  rw [language?_register textual, undeclared]
  rfl

/-- The registry gives the language its plugin and the extension its language. -/
def Has (r : Registry) (extension : String) (p : Plugin) : Prop :=
  r.language? (.str extension) = some p.language ∧ r.plugin? p.language = some p

/-- Nobody has the extension, and no plugin that declares it is registered under the name. -/
def Lacks (r : Registry) (extension language : String) : Prop :=
  r.language? (.str extension) = none ∧
    ∀ q, r.plugin? language = some q → q.declares extension = false

/-! ## One operation -/

theorem has_register (textual : p.Textual) (declared : p.declares extension = true) (r : Registry) :
    (r.perform (.register p)).Has extension p := by
  refine ⟨?_, ?_⟩
  · rw [language?_register textual, if_pos declared]
  · rw [plugin?_register textual, if_pos rfl]

theorem Has.register {q : Plugin} (has : r.Has extension p) (textual : q.Textual)
    (undeclared : q.declares extension = false) (other : q.language ≠ p.language) :
    (r.perform (.register q)).Has extension p := by
  refine ⟨?_, ?_⟩
  · rw [language?_register_of_undeclared textual undeclared]
    exact has.1
  · rw [plugin?_register textual, if_neg other]
    exact has.2

theorem Has.unregister (has : r.Has extension p) (orderly : r.Orderly)
    (other : language ≠ p.language) : (r.perform (.unregister language)).Has extension p := by
  refine ⟨?_, ?_⟩
  · rw [language?_unregister orderly]
    split
    · exact has.1
    · have elsewhere : ¬ r.language? (.str extension) = some language := by
        rw [has.1]
        exact fun equal => other (Option.some.inj equal).symm
      rw [if_neg (fun both => elsewhere both.2)]
      exact has.1
  · rw [plugin?_unregister orderly, if_neg other]
    exact has.2

/-- Removing the plugin that has an extension takes the extension away. -/
theorem Has.lacks (has : r.Has extension p) (orderly : r.Orderly)
    (declared : p.declares extension = true) :
    (r.perform (.unregister p.language)).Lacks extension p.language := by
  refine ⟨?_, ?_⟩
  · rw [language?_unregister orderly, has.2]
    exact if_pos ⟨declared, has.1⟩
  · intro q found
    rw [plugin?_unregister orderly, if_pos rfl] at found
    cases found

theorem Lacks.register {q : Plugin} (lacks : r.Lacks extension language) (textual : q.Textual)
    (undeclared : q.declares extension = false) :
    (r.perform (.register q)).Lacks extension language := by
  refine ⟨?_, ?_⟩
  · rw [language?_register_of_undeclared textual undeclared]
    exact lacks.1
  · intro q' found
    rw [plugin?_register textual] at found
    split at found
    · obtain rfl := Option.some.inj found
      exact undeclared
    · exact lacks.2 q' found

theorem Lacks.unregister (lacks : r.Lacks extension language) (orderly : r.Orderly)
    (other : String) : (r.perform (.unregister other)).Lacks extension language := by
  refine ⟨?_, ?_⟩
  · rw [language?_unregister orderly]
    split
    · exact lacks.1
    · rw [lacks.1, ite_self]
  · intro q found
    rw [plugin?_unregister orderly] at found
    split at found
    · cases found
    · exact lacks.2 q found

/-! ## Any number of operations -/

/-- An extension that nobody has stays so until it is declared. -/
theorem Lacks.foldl {ops : List Operation} : ∀ {r : Registry}, r.Lacks extension language →
    r.Orderly → (∀ op ∈ ops, op.Proper) → Undeclared extension ops →
    (ops.foldl perform r).Lacks extension language := by
  induction ops with
  | nil =>
      intro r lacks _ _ _
      exact lacks
  | cons op rest ih =>
      intro r lacks orderly proper undeclared
      have first := proper op List.mem_cons_self
      refine ih ?_ (orderly.perform first.textual)
        (fun o ho => proper o (List.mem_cons_of_mem _ ho)) undeclared.tail
      cases op with
      | register q => exact lacks.register first.2 (undeclared q List.mem_cons_self)
      | unregister other => exact lacks.unregister orderly other

/-- A plugin that is kept has what it had, until another one declares it. -/
theorem Has.foldl_of_kept {ops : List Operation} : ∀ {r : Registry}, r.Has extension p →
    r.Orderly → (∀ op ∈ ops, op.Proper) → Undeclared extension ops →
    fate p.language ops = .kept → (ops.foldl perform r).Has extension p := by
  induction ops with
  | nil =>
      intro r has _ _ _ _
      exact has
  | cons op rest ih =>
      intro r has orderly proper undeclared kept
      have first := proper op List.mem_cons_self
      have next : fate p.language rest = .kept ∧ (r.perform op).Has extension p := by
        cases op with
        | register q =>
            rw [fate] at kept
            split at kept
            · cases kept
            · next other =>
              exact ⟨kept, has.register first.2 (undeclared q List.mem_cons_self) other⟩
        | unregister language =>
            rw [fate] at kept
            split at kept
            · cases kept
            · next other => exact ⟨kept, has.unregister orderly other⟩
      exact ih next.2 (orderly.perform first.textual)
        (fun o ho => proper o (List.mem_cons_of_mem _ ho)) undeclared.tail next.1

/-- A plugin that is removed takes along what it had. -/
theorem Has.foldl_of_removed {ops : List Operation} (declared : p.declares extension = true) :
    ∀ {r : Registry}, r.Has extension p → r.Orderly → (∀ op ∈ ops, op.Proper) →
    Undeclared extension ops → fate p.language ops = .removed →
    (ops.foldl perform r).Lacks extension p.language := by
  induction ops with
  | nil =>
      intro r _ _ _ _ removed
      cases removed
  | cons op rest ih =>
      intro r has orderly proper undeclared removed
      have first := proper op List.mem_cons_self
      have others : ∀ o ∈ rest, o.Proper := fun o ho => proper o (List.mem_cons_of_mem _ ho)
      cases op with
      | register q =>
          rw [fate] at removed
          split at removed
          · cases removed
          · next other =>
            exact ih (has.register first.2 (undeclared q List.mem_cons_self) other)
              (orderly.register first.2) others undeclared.tail removed
      | unregister language =>
          by_cases own : language = p.language
          · subst own
            exact (has.lacks orderly declared).foldl (orderly.unregister _) others undeclared.tail
          · rw [fate, if_neg own] at removed
            exact ih (has.unregister orderly own) (orderly.unregister _) others undeclared.tail
              removed

/-- What the plugin of the last registration that declares the extension has after the history. -/
theorem has_after {before later : List Operation}
    (proper : ∀ op ∈ before ++ .register p :: later, op.Proper)
    (declared : p.declares extension = true) (last : Undeclared extension later) :
    (fate p.language later = .kept → (after (before ++ .register p :: later)).Has extension p) ∧
    (fate p.language later = .removed →
      (after (before ++ .register p :: later)).Lacks extension p.language) := by
  have others : ∀ op ∈ later, op.Proper := fun op ho =>
    proper op (List.mem_append_right _ (List.mem_cons_of_mem _ ho))
  have own : p.language ≠ "" ∧ p.Textual :=
    proper (.register p) (List.mem_append_right _ List.mem_cons_self)
  have orderly : ((after before).perform (.register p)).Orderly :=
    (orderly_after fun op ho => (proper op (List.mem_append_left _ ho)).textual).register own.2
  have has := has_register own.2 declared (after before)
  have whole : after (before ++ .register p :: later) =
      later.foldl perform ((after before).perform (.register p)) := by
    rw [after, List.foldl_append, List.foldl_cons]
    rfl
  rw [whole]
  exact ⟨has.foldl_of_kept orderly others last, has.foldl_of_removed declared orderly others last⟩

/-! ## Which extensions are supported -/

/-- Extensions and files agree with the registered plugins: an extension is supported if and only if
a registered plugin declares it, and the file of a supported extension gets such a plugin. -/
structure Consistent (r : Registry) : Prop where
  supported : ∀ extension, .str extension ∈ r.supported ↔
    ∃ entry ∈ r.plugins, entry.2.declares extension = true
  files : ∀ filePath, .str (Path.ofString filePath).suffix ∈ r.supported →
    ∃ p, (r.pluginForFile filePath).Answers (some p) ∧ (p.language, p) ∈ r.plugins ∧
      p.declares (Path.ofString filePath).suffix = true

/-- A plugin that parses nothing and has no checks. -/
def silentPlugin (identity language : String) (names : List String) : Plugin where
  identity := identity
  language := language
  extensions := .texts names
  parse := fun _ _ _ => throw (.refused "no tree")
  createChecks := fun _ => pure []

theorem declares_silentPlugin {identity language extension : String} {names : List String} :
    (silentPlugin identity language names).declares extension = true ↔ extension ∈ names :=
  Plugin.declares_iff rfl

theorem proper_silentPlugin {identity language : String} {names : List String}
    (named : language ≠ "") : Operation.Proper (.register (silentPlugin identity language names)) :=
  ⟨named, names, rfl⟩

/-- Two languages share an extension, and the one that took it is removed. -/
def stolen : List Operation :=
  [.register (silentPlugin "a" "alpha" [".x"]), .register (silentPlugin "b" "beta" [".x"]),
    .unregister "beta"]

/-- A plugin is replaced by one that declares less. -/
def shrunk : List Operation :=
  [.register (silentPlugin "a" "alpha" [".x", ".y"]), .register (silentPlugin "b" "alpha" [".x"])]

theorem proper_stolen : ∀ op ∈ stolen, op.Proper := by
  intro op member
  simp only [stolen, List.mem_cons, List.not_mem_nil, or_false] at member
  rcases member with rfl | rfl | rfl
  · exact proper_silentPlugin (by decide)
  · exact proper_silentPlugin (by decide)
  · exact True.intro

theorem proper_shrunk : ∀ op ∈ shrunk, op.Proper := by
  intro op member
  simp only [shrunk, List.mem_cons, List.not_mem_nil, or_false] at member
  rcases member with rfl | rfl
  · exact proper_silentPlugin (by decide)
  · exact proper_silentPlugin (by decide)

/-- An extension that was taken over is lost with the plugin that took it over. -/
theorem inconsistent_stolen : ¬ (after stolen).Consistent := by
  intro consistent
  let alpha := silentPlugin "a" "alpha" [".x"]
  let beta := silentPlugin "b" "beta" [".x"]
  have first : (perform {} (.register alpha)).Orderly := orderly_empty.register ⟨_, rfl⟩
  have second := first.register (p := beta) ⟨_, rfl⟩
  have lacks : (after stolen).Lacks ".x" "beta" :=
    (has_register ⟨_, rfl⟩ (declares_silentPlugin.2 List.mem_cons_self) _).lacks second
      (declares_silentPlugin.2 List.mem_cons_self)
  have registered : (after stolen).plugin? "alpha" = some alpha := by
    have before : (perform {} (.register alpha)).plugin? "alpha" = some alpha :=
      (plugin?_register ⟨_, rfl⟩ {} "alpha").trans (if_pos rfl)
    have between : ((perform {} (.register alpha)).perform (.register beta)).plugin? "alpha" =
        some alpha :=
      (plugin?_register ⟨_, rfl⟩ _ "alpha").trans ((if_neg (by decide)).trans before)
    exact (plugin?_unregister second "beta" "alpha").trans between
  have entry := Keyed.mem_of_find?_eq_some (find?_name "alpha") registered
  have supported := (consistent.supported ".x").2
    ⟨_, entry, declares_silentPlugin.2 List.mem_cons_self⟩
  obtain ⟨language, owner⟩ := mem_supported_iff.1 supported
  rw [lacks.1] at owner
  cases owner

/-- An extension that the next plugin of a language does not declare stays. -/
theorem inconsistent_shrunk : ¬ (after shrunk).Consistent := by
  intro consistent
  let first := silentPlugin "a" "alpha" [".x", ".y"]
  let second := silentPlugin "b" "alpha" [".x"]
  have undeclared : second.declares ".y" = false := by
    rw [Bool.eq_false_iff]
    exact fun declared => absurd (declares_silentPlugin.1 declared) (by decide)
  have has : (perform {} (.register first)).Has ".y" first :=
    has_register ⟨_, rfl⟩ (declares_silentPlugin.2 (by decide)) {}
  have owner : (after shrunk).language? (.str ".y") = some "alpha" :=
    (language?_register_of_undeclared ⟨_, rfl⟩ undeclared _).trans has.1
  have plugins : (after shrunk).plugins = [("alpha", second)] := by
    have before : (perform {} (.register first)).plugins = [("alpha", first)] :=
      plugins_register ⟨_, rfl⟩ {}
    refine (plugins_register ⟨_, rfl⟩ _).trans ?_
    rw [before]
    rfl
  obtain ⟨entry, member, declared⟩ :=
    (consistent.supported ".y").1 (mem_supported_iff.2 ⟨_, owner⟩)
  rw [plugins] at member
  obtain rfl := List.mem_singleton.1 member
  rw [undeclared] at declared
  cases declared

/-- Neither taking an extension over nor replacing a plugin keeps the registry consistent. -/
theorem inconsistent_histories :
    ((∀ op ∈ stolen, op.Proper) ∧ ¬ (after stolen).Consistent) ∧
      (∀ op ∈ shrunk, op.Proper) ∧ ¬ (after shrunk).Consistent :=
  ⟨⟨proper_stolen, inconsistent_stolen⟩, proper_shrunk, inconsistent_shrunk⟩

/-- An extension that no registration declares is not supported.  Otherwise, unless the plugin that
declared it last was replaced, it is supported if and only if this plugin is still registered, and
then the plugin gets the files of the extension. -/
theorem supported_iff_last_registered (ops : List Operation) (proper : ∀ op ∈ ops, op.Proper)
    (extension : String) :
    (Undeclared extension ops → .str extension ∉ (after ops).supported) ∧
    ∀ before p later, ops = before ++ .register p :: later → p.declares extension = true →
      Undeclared extension later → fate p.language later ≠ .replaced →
      (.str extension ∈ (after ops).supported ↔ (after ops).plugin? p.language = some p) ∧
      (.str extension ∈ (after ops).supported →
        (p.language, p) ∈ (after ops).plugins ∧
        ∀ filePath, (Path.ofString filePath).suffix = extension →
          ((after ops).pluginForFile filePath).Answers (some p)) := by
  refine ⟨?_, ?_⟩
  · intro undeclared supported
    have empty : Lacks {} extension "" := ⟨rfl, fun q found => by cases found⟩
    have lacks := empty.foldl orderly_empty proper undeclared
    obtain ⟨language, owner⟩ := mem_supported_iff.1 supported
    rw [after, lacks.1] at owner
    cases owner
  · rintro before p later rfl declared last unreplaced
    obtain ⟨kept, removed⟩ := has_after proper declared last
    cases became : fate p.language later with
    | kept =>
        obtain ⟨owner, found⟩ := kept became
        have supported := mem_supported_iff.2 ⟨p.language, owner⟩
        refine ⟨⟨fun _ => found, fun _ => supported⟩, fun _ => ⟨?_, ?_⟩⟩
        · exact Keyed.mem_of_find?_eq_some (find?_name p.language) found
        · intro filePath suffix
          have named : p.language ≠ "" :=
            (proper (.register p) (List.mem_append_right _ List.mem_cons_self)).1
          have answers := (after (before ++ .register p :: later)).pluginForFile_answers filePath
          rw [← suffix] at owner
          rw [choose_of_language named owner, found] at answers
          exact answers
    | removed =>
        obtain ⟨nobody, gone⟩ := removed became
        have unsupported :
            .str extension ∉ (after (before ++ .register p :: later)).supported := by
          intro supported
          obtain ⟨language, owner⟩ := mem_supported_iff.1 supported
          rw [nobody] at owner
          cases owner
        refine ⟨⟨fun supported => absurd supported unsupported, ?_⟩,
          fun supported => absurd supported unsupported⟩
        intro found
        rw [gone p found] at declared
        cases declared
    | replaced => exact absurd became unreplaced

/-- A plugin takes an extension over, and the one that had it is removed. -/
def handedOver : List Operation :=
  [.register (silentPlugin "a" "alpha" [".x"]), .register (silentPlugin "b" "beta" [".x"]),
    .unregister "alpha"]

theorem supported_of_handedOver :
    (∀ op ∈ handedOver, op.Proper) ∧
      (.str ".x" ∈ (after handedOver).supported ↔
        (after handedOver).plugin? "beta" = some (silentPlugin "b" "beta" [".x"])) := by
  have proper : ∀ op ∈ handedOver, op.Proper := by
    intro op member
    simp only [handedOver, List.mem_cons, List.not_mem_nil, or_false] at member
    rcases member with rfl | rfl | rfl
    · exact proper_silentPlugin (by decide)
    · exact proper_silentPlugin (by decide)
    · exact True.intro
  have later : Undeclared ".x" [.unregister "alpha"] := by
    intro p member
    cases List.mem_singleton.1 member
  have last := (supported_iff_last_registered handedOver proper ".x").2
    [.register (silentPlugin "a" "alpha" [".x"])] (silentPlugin "b" "beta" [".x"])
    [.unregister "alpha"] rfl (declares_silentPlugin.2 List.mem_cons_self) later (by decide)
  exact ⟨proper, last.1⟩

end ModifierLint.Registry
