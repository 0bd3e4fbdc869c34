/-
# Walks that fail

A check that fails somewhere has a calm twin, `Check.calmed`: it finds the same at every call, and
never fails.  The walk of the twins is never cut short, so it shows what a walk would have done.

What a walk with failures has done is told from there: it has made the calls of the calm walk up to
the first that fails, which is the last one made, and a collector keeps what was logged at these
calls (`Walker.walk_fails_first`).
-/
import ModifierLint.Proofs.Walk.Acceptance

namespace ModifierLint

/-- A check that finds what the check finds, and never fails. -/
def Check.calmed (c : Check) : Check :=
  { c with visit := fun t h => { c.visit t h with failure := none } }

@[simp] theorem Check.effectiveTokens_calmed (c : Check) :
    c.calmed.effectiveTokens = c.effectiveTokens := rfl

@[simp] theorem Check.tokenError?_calmed (c : Check) : c.calmed.tokenError? = c.tokenError? := rfl

/-- Whether a call is a visit. -/
def Call.isVisit : Call → Bool
  | .visit _ => true
  | .begin | .leave _ | .finish => false

namespace Walker

variable {w : Walker} {t : SourceTree}

/-! ## The walker of the twins -/

/-- The walker of the calm twins. -/
def calmed (w : Walker) : Walker where
  checks := w.checks.map Check.calmed
  valid := by
    intro c hc
    obtain ⟨c, member, rfl⟩ := List.mem_map.1 hc
    exact w.valid c member

/-- The twins ask for the kinds that the checks ask for. -/
theorem interested_calmed (w : Walker) (kind : String) :
    w.calmed.interested kind = (w.interested kind).map (Prod.map id Check.calmed) := by
  simp only [interested, calmed, List.zipIdx_map, List.filter_map, List.map_map]
  rfl

theorem visitsOf_calmed (w : Walker) (h : Handle) : w.calmed.visitsOf h = w.visitsOf h := by
  rw [visitsOf, interested_calmed, List.map_map]
  rfl

theorem leavesOf_calmed (w : Walker) (h : Handle) : w.calmed.leavesOf h = w.leavesOf h := by
  rw [leavesOf, interested_calmed, List.map_map]
  rfl

mutual

theorem callsAt_calmed (w : Walker) (number : Nat) :
    ∀ n : Node, w.calmed.callsAt number n = w.callsAt number n
  | .mk kind span text children => by
      rw [callsAt_eq, callsAt_eq, visitsOf_calmed, leavesOf_calmed, Node.children,
        callsBelow_calmed w (number + 1) children]

theorem callsBelow_calmed (w : Walker) (number : Nat) :
    ∀ ns : List Node, w.calmed.callsBelow number ns = w.callsBelow number ns
  | [] => rfl
  | n :: ns => by
      rw [callsBelow, callsBelow, callsAt_calmed w number n,
        callsBelow_calmed w (number + n.size) ns]

end

end Walker

end ModifierLint
