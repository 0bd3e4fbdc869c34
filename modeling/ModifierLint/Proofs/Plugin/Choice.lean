/-
# The plugin for a file

Which plugin a file gets is a matter of the registry and of its path alone: `Registry.choose` is
what `Registry.pluginForFile` answers.  The plugin is a registered one (`Registry.mem_of_choose`).
A registration puts its plugin under its name, whether or not its extensions can be claimed, and
claims those in front of the first one that cannot be (`Registry.register_comes_to`).

What can be claimed depends on what is supported already: an extension that is not can be any key,
and one that is must have a text, because there will be a warning about it (`Registry.claims`).
-/
import ModifierLint.Proofs.Keyed
import ModifierLint.Proofs.Log.Answers
import ModifierLint.Proofs.Value

namespace ModifierLint

theorem Keyed.mem_of_find? {κ ν : Type} {test : κ → Bool} {v : ν} :
    ∀ {entries : List (κ × ν)}, find? test entries = some v → ∃ k, (k, v) ∈ entries
  | [], found => by cases found
  | (k, _) :: rest, found => by
      rw [find?] at found
      split at found
      · cases found
        exact ⟨k, List.mem_cons_self⟩
      · obtain ⟨k', there⟩ := mem_of_find? found
        exact ⟨k', List.mem_cons_of_mem _ there⟩

namespace Registry

/-- The plugin for a file, by the extension of its path. -/
def choose (r : Registry) (filePath : String) : Option Plugin :=
  match r.language? (.str (Path.ofString filePath).suffix) with
  | some language => if language.isEmpty then none else r.plugin? language
  | none => none

theorem pluginForFile_answers (r : Registry) (filePath : String) :
    (r.pluginForFile filePath).Answers (r.choose filePath) := by
  have missing (extension : String) :
      (pluginForFile.missing filePath extension).Answers none :=
    Logged.Answers.bind (Logged.Answers.say _ _) (Logged.Answers.pure none)
  unfold pluginForFile choose
  simp only
  cases r.language? (.str (Path.ofString filePath).suffix) with
  | none => exact missing _
  | some language =>
      simp only
      split
      · exact missing _
      · exact Logged.Answers.pure _

theorem plugin?_of_choose {r : Registry} {filePath : String} {q : Plugin}
    (chosen : r.choose filePath = some q) : ∃ language, r.plugin? language = some q := by
  unfold choose at chosen
  split at chosen
  · split at chosen
    · cases chosen
    · exact ⟨_, chosen⟩
  · cases chosen

theorem mem_of_choose {r : Registry} {filePath : String} {q : Plugin}
    (chosen : r.choose filePath = some q) : ∃ language, (language, q) ∈ r.plugins := by
  obtain ⟨language, found⟩ := plugin?_of_choose chosen
  exact Keyed.mem_of_find? found

theorem claim_answers (r : Registry) (language : String) (extension : Value) :
    (r.claim language extension).Answers
      { r with extensions := Value.insert extension language r.extensions } := by
  unfold claim
  split
  · exact Logged.Answers.bind (Logged.Answers.say _ _) (Logged.Answers.pure _)
  · exact Logged.Answers.pure _

/-- The registry with the plugin under its name. -/
def stored (r : Registry) (p : Plugin) : Registry :=
  { r with plugins := Keyed.put (· == ·) p.language p r.plugins }

/-- The registry in which a language has claimed extensions of any kind, in order. -/
def owned (r : Registry) (language : String) (extensions : List Value) : Registry :=
  { r with extensions := extensions.foldl (fun m e => Value.insert e language m) r.extensions }

/-! ## What a registration claims -/

/-- Adds an extension at the end, unless it is there already. -/
def listed (known : List Value) (extension : Value) : List Value :=
  if known.any (·.sameKey extension) then known else known ++ [extension]

/-- Why an extension cannot be claimed where some are `known` already: it is no key, or it is known
and has no text. -/
def refusalAmong? (known : List Value) (extension : Value) : Option RegistrationFault :=
  if !extension.isHashable then some .shape
  else if known.any (·.sameKey extension) && !extension.isWritable then some .digits
  else none

/-- What is claimed of extensions where some are `known` already: those in front of the first one
that cannot be.  The fault is that of this first one. -/
def claims (known : List Value) : List Value → List Value × Option RegistrationFault
  | [] => ([], none)
  | extension :: rest =>
    match refusalAmong? known extension with
    | some fault => ([], some fault)
    | none =>
      (extension :: (claims (listed known extension) rest).1,
        (claims (listed known extension) rest).2)

/-- The extensions of a plugin that a registration claims. -/
def claimable (r : Registry) (p : Plugin) : List Value :=
  (claims r.supported (p.extensions.elements?.getD [])).1

/-- Why a plugin cannot be registered. -/
def fault? (r : Registry) (p : Plugin) : Option RegistrationFault :=
  match p.extensions.elements? with
  | none => some .shape
  | some extensions =>
    (claims r.supported extensions).2.or (if p.extensions.isWritable then none else some .digits)

theorem supported_insert (r : Registry) (language : String) (extension : Value) :
    supported { r with extensions := Value.insert extension language r.extensions } =
      listed r.supported extension :=
  Keyed.keys_put Value.sameKey extension language r.extensions

/-- A language is found for an extension that is supported. -/
theorem isSome_language? (r : Registry) (extension : Value) :
    (r.language? extension).isSome = r.supported.any (·.sameKey extension) := by
  unfold language? Value.lookup? supported
  induction r.extensions with
  | nil => rfl
  | cons entry rest ih =>
      rw [Keyed.find?, Keyed.keys, List.map_cons, List.any_cons]
      split
      · next same => rw [same, Option.isSome_some, Bool.true_or]
      · next other => rw [ih, Bool.eq_false_iff.2 other, Bool.false_or, Keyed.keys]

theorem refusal?_eq (r : Registry) (extension : Value) :
    r.refusal? extension = refusalAmong? r.supported extension := by
  rw [refusal?, isSome_language?, refusalAmong?]

/-- Claiming stops in front of the first extension that cannot be claimed. -/
theorem claimAll_answers (language : String) (extensions : List Value) : ∀ r : Registry,
    (r.claimAll language extensions).Answers
      (r.owned language (claims r.supported extensions).1, (claims r.supported extensions).2) := by
  induction extensions with
  | nil =>
      intro r
      exact Logged.Answers.pure _
  | cons extension rest ih =>
      intro r
      rw [claimAll, claims, refusal?_eq]
      cases refusalAmong? r.supported extension with
      | some fault => exact Logged.Answers.pure _
      | none =>
          have others := ih { r with extensions := Value.insert extension language r.extensions }
          rw [supported_insert] at others
          exact Logged.Answers.bind (claim_answers r language extension) others

theorem announce_answers (p : Plugin) :
    (announce p).Answers (if p.extensions.isWritable then none else some .digits) := by
  unfold announce
  cases p.extensions.isWritable with
  | true => exact Logged.Answers.bind (Logged.Answers.say _ _) (Logged.Answers.pure _)
  | false => exact Logged.Answers.pure _

theorem claimDeclared_answers (r : Registry) (p : Plugin) :
    (r.claimDeclared p).Answers (r.owned p.language (r.claimable p), r.fault? p) := by
  unfold claimDeclared claimable fault?
  cases p.extensions.elements? with
  | none => exact Logged.Answers.pure _
  | some extensions =>
      have claimed := claimAll_answers p.language extensions r
      rw [Option.getD_some]
      dsimp only
      generalize claims r.supported extensions = outcome at claimed ⊢
      obtain ⟨front, fault⟩ := outcome
      refine Logged.Answers.bind claimed ?_
      cases fault with
      | some reason => exact Logged.Answers.pure _
      | none => exact Logged.Answers.bind (announce_answers p) (Logged.Answers.pure _)

/-- A registration stores the plugin and claims what can be claimed. -/
theorem register_comes_to (r : Registry) (p : Plugin) :
    (r.register p).Answers ((r.stored p).owned p.language (r.claimable p), r.fault? p) := by
  have declared := claimDeclared_answers (r.stored p) p
  unfold register
  split
  · exact Logged.Answers.bind (Logged.Answers.say _ _) declared
  · exact declared

/-- A registration puts its plugin under its name. -/
theorem register_answers (r : Registry) (p : Plugin) : ∃ r' fault,
    (r.register p).Answers (r', fault) ∧
      r'.plugins = Keyed.put (· == ·) p.language p r.plugins :=
  ⟨_, _, register_comes_to r p, rfl⟩

/-! ## Registrations that succeed -/

/-- Keys that have texts are all claimed. -/
theorem claims_of_writable {extensions : List Value}
    (keys : ∀ e ∈ extensions, e.isHashable = true)
    (writable : ∀ e ∈ extensions, e.isWritable = true) : ∀ known : List Value,
    claims known extensions = (extensions, none) := by
  induction extensions with
  | nil => exact fun _ => rfl
  | cons extension rest ih =>
      intro known
      have later := ih (fun e he => keys e (List.mem_cons_of_mem _ he))
        (fun e he => writable e (List.mem_cons_of_mem _ he)) (listed known extension)
      have free : refusalAmong? known extension = none := by
        simp [refusalAmong?, keys extension List.mem_cons_self, writable extension List.mem_cons_self]
      rw [claims, free, later]

/-- Claiming goes to the end only if all extensions are keys. -/
theorem isHashable_of_claims {extensions : List Value} : ∀ {known : List Value},
    (claims known extensions).2 = none → ∀ e ∈ extensions, e.isHashable = true := by
  induction extensions with
  | nil => exact fun _ _ member => nomatch member
  | cons extension rest ih =>
      intro known whole
      rw [claims] at whole
      cases refused : refusalAmong? known extension with
      | some fault =>
          rw [refused] at whole
          cases whole
      | none =>
          rw [refused] at whole
          refine List.forall_mem_cons.2 ⟨?_, ih whole⟩
          rw [refusalAmong?] at refused
          split at refused
          · cases refused
          · next key => simpa using key

/-- A registration succeeds if the extensions are keys and have texts. -/
theorem fault?_eq_none {r : Registry} {p : Plugin} : r.fault? p = none ↔
    (∃ extensions, p.extensions.elements? = some extensions ∧
      ∀ e ∈ extensions, e.isHashable = true) ∧ p.extensions.isWritable = true := by
  unfold fault?
  cases parts : p.extensions.elements? with
  | none => exact iff_of_false nofun fun ⟨⟨_, other, _⟩, _⟩ => nomatch other
  | some extensions =>
      dsimp only
      rw [Option.or_eq_none_iff]
      constructor
      · rintro ⟨whole, text⟩
        refine ⟨⟨extensions, rfl, isHashable_of_claims whole⟩, ?_⟩
        by_contra unwritable
        rw [if_neg unwritable] at text
        cases text
      · rintro ⟨⟨_, ⟨⟩, keys⟩, writable⟩
        rw [if_pos writable, claims_of_writable keys fun e he =>
          Value.isWritable_of_mem_elements? writable parts he]
        exact ⟨rfl, rfl⟩

end Registry

end ModifierLint
