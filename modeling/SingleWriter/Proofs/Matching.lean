import SingleWriter.Proofs.Effects
import SingleWriter.Reconciler

/-!
# Matching states

An action matches a relation between states when from related states it ends alike: with the
same result or the same error, in states that are related again. Every action that is made of
matching ones matches, so a pass does as soon as the nodes and the admin store do.
-/

set_option autoImplicit false

namespace SingleWriter

variable {ε δ σ τ υ α β : Type}

/-! ## Actions -/

namespace Action

inductive EndsAlike (R : σ → σ → Prop) :
    EStateM.Result ε σ α → EStateM.Result ε σ α → Prop
  | ok {a : α} {s t : σ} (h : R s t) : EndsAlike R (.ok a s) (.ok a t)
  | error {e : ε} {s t : σ} (h : R s t) : EndsAlike R (.error e s) (.error e t)

def Matches (R : σ → σ → Prop) (x : EStateM ε σ α) : Prop :=
  ∀ ⦃s t⦄, R s t → EndsAlike R (x s) (x t)

variable {R : σ → σ → Prop} {x : EStateM ε σ α}

theorem Matches.of_ok (hx : Matches R x) {s t s' : σ} {a : α} (h : R s t) (hs : x s = .ok a s') :
    ∃ t', x t = .ok a t' ∧ R s' t' := by
  have hends := hx h
  rw [hs] at hends
  generalize x t = q at hends
  cases hends with
  | ok h => exact ⟨_, rfl, h⟩

theorem Matches.of_error (hx : Matches R x) {s t s' : σ} {e : ε} (h : R s t)
    (hs : x s = .error e s') : ∃ t', x t = .error e t' ∧ R s' t' := by
  have hends := hx h
  rw [hs] at hends
  generalize x t = q at hends
  cases hends with
  | error h => exact ⟨_, rfl, h⟩

/-- An action does the same in equal states. -/
theorem matches_eq (x : EStateM ε σ α) : Matches Eq x := by
  rintro s _ rfl
  cases x s with
  | ok a t => exact .ok rfl
  | error e t => exact .error rfl

theorem matches_pure (a : α) : Matches R (pure a : EStateM ε σ α) := fun _ _ h => .ok h

theorem matches_throw (e : ε) : Matches R (throw e : EStateM ε σ α) := fun _ _ h => .error h

/-- Either outcome is followed by an action that matches. -/
theorem Matches.handle {f : α → EStateM δ σ β} {g : ε → EStateM δ σ β} (hx : Matches R x)
    (hf : ∀ a, Matches R (f a)) (hg : ∀ e, Matches R (g e)) :
    Matches R (fun s => match x s with
      | .ok a s => f a s
      | .error e s => g e s) := by
  intro s t h
  have hends := hx h
  dsimp only
  generalize x s = p at hends ⊢
  generalize x t = q at hends ⊢
  cases hends with
  | ok h => exact hf _ h
  | error h => exact hg _ h

theorem Matches.bind {f : α → EStateM ε σ β} (hx : Matches R x) (hf : ∀ a, Matches R (f a)) :
    Matches R (x >>= f) := hx.handle hf matches_throw

theorem Matches.mapError {d : ε → δ} (hx : Matches R x) : Matches R (mapError d x) :=
  hx.handle matches_pure fun e => matches_throw (d e)

theorem Matches.outcome (hx : Matches R x) :
    Matches R (outcome x : EStateM δ σ (Except ε α)) :=
  hx.handle (fun a => matches_pure (Except.ok a)) fun e => matches_pure (Except.error e)

theorem Matches.each {f : β → EStateM ε σ Unit} (hf : ∀ b, Matches R (f b)) (bs : List β) :
    Matches R (each f bs) := by
  induction bs with
  | nil => exact matches_pure ()
  | cons b bs ih => exact (hf b).bind fun _ => ih

/-- What matches on a part matches where related states have related parts. -/
theorem Matches.within {Q : υ → υ → Prop} {part : υ → σ} {replace : σ → υ → υ} (hx : Matches R x)
    (hpart : ∀ ⦃u v⦄, Q u v → R (part u) (part v))
    (hreplace : ∀ ⦃u v s t⦄, Q u v → R s t → Q (replace s u) (replace t v)) :
    Matches Q (within part replace x) := by
  intro u v h
  have hends := hx (hpart h)
  unfold Action.within
  generalize x (part u) = p at hends ⊢
  generalize x (part v) = q at hends ⊢
  cases hends with
  | ok hst => exact .ok (hreplace h hst)
  | error hst => exact .error (hreplace h hst)

end Action

open SingleWriter.Action

/-! ## Nodes -/

structure NodeAccess.Matches (nodes : NodeAccess σ) (R : σ → σ → Prop) : Prop where
  fetch : ∀ a, Action.Matches R (nodes.fetch a)
  peers : ∀ a, Action.Matches R (nodes.peers a)

theorem NodeAccess.Matches.within {nodes : NodeAccess σ} {R : σ → σ → Prop} {Q : υ → υ → Prop}
    {part : υ → σ} {replace : σ → υ → υ} (h : nodes.Matches R)
    (hpart : ∀ ⦃u v⦄, Q u v → R (part u) (part v))
    (hreplace : ∀ ⦃u v s t⦄, Q u v → R s t → Q (replace s u) (replace t v)) :
    (nodes.within part replace).Matches Q where
  fetch a := (h.fetch a).within hpart hreplace
  peers a := (h.peers a).within hpart hreplace

theorem NodeAccess.matches_eq (nodes : NodeAccess σ) : nodes.Matches Eq where
  fetch _ := Action.matches_eq _
  peers _ := Action.matches_eq _

namespace Discovery

variable {nodes : NodeAccess σ} {R : σ → σ → Prop} (h : nodes.Matches R)
include h

theorem matches_fetch (a : Addr) : Matches R (fetch nodes a) := (h.fetch a).mapError

theorem matches_peers (a : Addr) : Matches R (peers nodes a) := (h.peers a).mapError

theorem matches_gather (id : Uuid) (addrs : List Addr) (m : Membership) :
    Matches R (gather nodes id addrs m) := by
  induction addrs generalizing m with
  | nil => exact matches_pure m
  | cons a rest ih => exact (matches_fetch h a).bind fun node => ih _

theorem matches_discover (seed : Addr) : Matches R (discover nodes seed) := by
  apply (matches_fetch h seed).bind
  intro node
  have hrest := fun m => (matches_peers h seed).bind fun reported =>
    matches_gather h node.stateId (reported.filter (·.host ≠ seed.host)) m
  split
  · exact (matches_throw _).bind fun _ => hrest _
  · exact hrest _

theorem matches_firstUseful (last : PassError) (seeds : List Addr) :
    Matches R (firstUseful nodes last seeds) := by
  induction seeds generalizing last with
  | nil => exact matches_throw last
  | cons seed rest ih =>
    intro s t hst
    have hends := matches_discover h seed hst
    unfold firstUseful
    generalize discover nodes seed s = p at hends ⊢
    generalize discover nodes seed t = q at hends ⊢
    cases hends with
    | ok hst => exact .ok hst
    | error hst => exact ih _ hst

end Discovery

/-! ## The admin store -/

structure AdminStore.Matches (admin : AdminStore σ) (R : σ → σ → Prop) : Prop where
  register : ∀ b, Action.Matches R (admin.register b)
  deregister : ∀ b, Action.Matches R (admin.deregister b)
  setStatus : ∀ b status, Action.Matches R (admin.setStatus b status)
  setVariable : ∀ name value, Action.Matches R (admin.setVariable name value)
  reload : Action.Matches R admin.reload
  backends : ∀ g status, Action.Matches R (admin.backends g status)

theorem AdminStore.Matches.within {admin : AdminStore σ} {R : σ → σ → Prop} {Q : υ → υ → Prop}
    {part : υ → σ} {replace : σ → υ → υ} (h : admin.Matches R)
    (hpart : ∀ ⦃u v⦄, Q u v → R (part u) (part v))
    (hreplace : ∀ ⦃u v s t⦄, Q u v → R s t → Q (replace s u) (replace t v)) :
    (admin.within part replace).Matches Q where
  register b := (h.register b).within hpart hreplace
  deregister b := (h.deregister b).within hpart hreplace
  setStatus b status := (h.setStatus b status).within hpart hreplace
  setVariable name value := (h.setVariable name value).within hpart hreplace
  reload := h.reload.within hpart hreplace
  backends g status := (h.backends g status).within hpart hreplace

/-! ## Passes -/

namespace Reconciler

variable {r : Reconciler σ} {R : σ → σ → Prop}

section

variable (h : r.nodes.Matches R)
include h

theorem matches_probe (addrs : List Addr) : Matches R (r.probe addrs) := by
  induction addrs with
  | nil => exact matches_pure []
  | cons a rest ih => exact (h.fetch a).outcome.bind fun _ => ih.bind fun _ => matches_pure _

theorem matches_survey (seeds : List Addr) : Matches R (r.survey seeds) := by
  apply (Discovery.matches_firstUseful h .clusterUnavailable seeds).bind
  intro members
  split
  · exact matches_throw _
  · apply (matches_probe h _).bind
    intro probes
    dsimp only
    split
    · exact (matches_throw _).bind fun _ => matches_pure _
    · exact matches_pure _

end

section

variable (h : r.admin.Matches R)
include h

theorem matches_backendsOrNone (g : UInt32) : Matches R (r.admin.backendsOrNone g) := by
  intro s t hst
  have hends := h.backends (some g) none hst
  unfold AdminStore.backendsOrNone
  generalize r.admin.backends (some g) none s = p at hends ⊢
  generalize r.admin.backends (some g) none t = q at hends ⊢
  cases hends with
  | ok hst => exact .ok hst
  | error hst =>
    rename_i e s' t'
    cases e with
    | noBackends g' => exact .ok hst
    | _ => exact .error hst

theorem matches_load (groups : List UInt32) : Matches R (r.load groups) := by
  have hrows : ∀ groups, Matches R (r.loadRows groups) := by
    intro groups
    induction groups with
    | nil => exact matches_pure []
    | cons g rest ih =>
      exact (matches_backendsOrNone h g).bind fun _ => ih.bind fun _ => matches_pure _
  exact (hrows groups).bind fun _ => matches_pure _

theorem matches_applyOne (m : Mutation) : Matches R (r.applyOne m) := by
  cases m with
  | register b => exact h.register b
  | deregister b => exact h.deregister b
  | setStatus b => exact h.setStatus b b.status

theorem matches_apply (ms : List Mutation) : Matches R (r.apply ms) :=
  (Matches.each (fun v : String × String => h.setVariable v.1 v.2) _).bind fun _ =>
    Matches.each (matches_applyOne h) ms

theorem matches_commit (ms : List Mutation) : Matches R (r.commit ms) := by
  intro s t hst
  have hends := matches_apply h ms hst
  unfold commit
  generalize r.apply ms s = p at hends ⊢
  generalize r.apply ms t = q at hends ⊢
  cases hends with
  | ok hst => exact h.reload hst
  | error hst =>
    rename_i e s' t'
    have hreload := h.reload hst
    dsimp only
    generalize r.admin.reload s' = p at hreload ⊢
    generalize r.admin.reload t' = q at hreload ⊢
    cases hreload with
    | ok hst => exact .error hst
    | error hst => exact .error hst

end

/-- A pass over nodes and an admin store that match ends alike from related states. -/
theorem matches_reconcile (hnodes : r.nodes.Matches R) (hadmin : r.admin.Matches R)
    (req : PassRequest) : Matches R (r.reconcile req) := by
  apply (matches_survey hnodes req.seeds).bind
  intro health
  apply (matches_load hadmin [req.writerGroup, req.readerGroup]).bind
  intro current
  exact (matches_commit hadmin _).bind fun _ => matches_pure _

end Reconciler

end SingleWriter
