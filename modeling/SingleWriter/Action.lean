import SingleWriter.Errors

/-!
# Actions

An action runs on a state and ends with a result or an error; either way it ends in
a state, so what was done before a failure stays done.
-/

set_option autoImplicit false

namespace SingleWriter

abbrev Action (σ α : Type) := EStateM PassError σ α

namespace Action

variable {ε δ σ τ α : Type}

def mapError (f : ε → δ) (x : EStateM ε σ α) : EStateM δ σ α := fun s =>
  match x s with
  | .ok a s => .ok a s
  | .error e s => .error (f e) s

/-- Runs an action and hands over its outcome, so that the whole never fails. -/
def outcome (x : EStateM ε σ α) : EStateM δ σ (Except ε α) := fun s =>
  match x s with
  | .ok a s => .ok (.ok a) s
  | .error e s => .ok (.error e) s

/-- Runs an action on a part of a larger state. -/
def within (part : τ → σ) (replace : σ → τ → τ) (x : EStateM ε σ α) : EStateM ε τ α := fun t =>
  match x (part t) with
  | .ok a s => .ok a (replace s t)
  | .error e s => .error e (replace s t)

/-- Runs `x` for each item in turn and stops at the first failure. -/
def each {β : Type} (x : β → EStateM ε σ Unit) : List β → EStateM ε σ Unit
  | [] => pure ()
  | b :: bs => do
    x b
    each x bs

end Action

end SingleWriter
