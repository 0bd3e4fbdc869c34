/-
# Registrations that fail

A plugin may declare extensions that are no sequence, or among them a value that cannot be a key or
has a number with too many digits.  Registering it fails then, and what was done before the failure
stays done: the plugin stands under its name, also in place of another one, and the extensions in
front of the first one that cannot be claimed are its own (`Registry.claimable`).  Nothing else
changes.

`Registry.register_comes_to` gives the registry that a registration leaves, for every registry and
every plugin, and the lemmas here say what is found there.  Extensions need not be texts:
`Value.get?_insert` is the reason why a text is still looked up as if they were.
-/
import ModifierLint.Java.Plugin
import ModifierLint.Proofs.Files.Path
import ModifierLint.Proofs.Plugin.History

namespace ModifierLint

/-- Texts can be claimed. -/
theorem Plugin.Textual.fault? {p : Plugin} (textual : p.Textual) (r : Registry) :
    r.fault? p = none := by
  obtain ⟨names, texts⟩ := textual
  rw [Registry.fault?_eq_none, texts, Value.elements?_texts]
  exact ⟨⟨_, rfl, List.forall_mem_map.2 fun name _ => Value.isHashable_str name⟩,
    Value.isWritable_texts names⟩

namespace Registry

variable {r : Registry} {p : Plugin}

/-! ## What is found afterwards -/

end Registry

end ModifierLint
