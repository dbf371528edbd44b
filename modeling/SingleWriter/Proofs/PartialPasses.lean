import SingleWriter.Proofs.Passes
import SingleWriter.Proofs.Realisation
import SingleWriter.Proofs.Discoveries

/-!
# Whole and partial passes

A pass takes effect as a whole, up to some write, or not at all. Until the rows are loaded
it only reads: what ends it there is the discovery of the members, or a store that is down,
and the store is as it was. From then on the store is up, so that only a write can be
refused, and only because the store takes no more of them. What it leaves is then the
variables, the writes before that one, and the reload.

An address that the plan takes out of service has a row that was loaded, so that no write
meets a missing row; and a hostgroup without rows is loaded as an empty one.
-/

set_option autoImplicit false

namespace SingleWriter

open SingleWriter.Action

variable {σ : Type}

/-! ## Failures of the survey -/

def PassError.OfMembers : PassError → Prop
  | .nonPrimary _ => True
  | .unknownState _ _ => True
  | .clusterUnavailable => True
  | _ => False

theorem Discovery.fails_discoverAny (nodes : NodeAccess σ) (seeds : List Addr) :
    Fails PassError.OfMembers (discoverAny nodes seeds) :=
  fails_firstUseful nodes (fun _ _ => trivial) (fun _ => trivial) fun _ => trivial

namespace Reconciler

variable {r : Reconciler σ} {s u : σ}

/-- A probe that fails is a finding, so that probing never fails. -/
theorem exists_probe (r : Reconciler σ) (addrs : List Addr) (s : σ) :
    ∃ probes t, r.probe addrs s = .ok probes t := by
  have hnever : ∀ addrs, Fails (fun _ => False) (r.probe addrs) := by
    intro addrs
    induction addrs with
    | nil => exact fails_pure []
    | cons a rest ih => exact (fails_outcome _).bind fun _ => ih.bind fun _ => fails_pure _
  cases h : r.probe addrs s with
  | ok probes t => exact ⟨probes, t, rfl⟩
  | error e t => exact ((hnever addrs).error h).elim

theorem fails_survey (seeds : List Addr) : Fails PassError.OfMembers (r.survey seeds) := by
  apply (Discovery.fails_discoverAny r.nodes seeds).bind
  intro members
  split
  · exact fails_throw trivial
  · apply Fails.bind
    · constructor
      intro s t e h
      obtain ⟨probes, u, hprobe⟩ := r.exists_probe members.addresses s
      rw [hprobe] at h
      cases h
    · intro probes
      dsimp only
      split
      · exact (fails_throw trivial).bind fun _ => fails_pure _
      · exact fails_pure _

/-- What the survey says once the members are found and probed. -/
theorem survey_of_members {seeds : List Addr} {members : Membership} {tier : LocalState}
    {probes : List Probe} {t : σ} (hm : Discovery.discoverAny r.nodes seeds s = .ok members u)
    (htier : members.tier? = some tier) (hprobe : r.probe members.addresses u = .ok probes t) :
    r.survey seeds s =
      if (HealthMap.ofProbes tier probes).candidates.isEmpty then .error .clusterUnavailable t
      else .ok (HealthMap.ofProbes tier probes) t := by
  refine (bind_of_ok hm).trans ?_
  simp only [htier]
  refine (bind_of_ok hprobe).trans ?_
  split <;> rfl

end Reconciler

/-! ## One pass -/

def PassRequest.writes (req : PassRequest) (health : HealthMap) (current : BackendSet) :
    List Mutation :=
  BackendSet.diff current ((req.context health).plan current).backends req.writerGroup

namespace Deployment

variable {monitor : Option Credentials} {req : PassRequest} {d : Deployment}

def reconciler (monitor : Option Credentials) : Reconciler Deployment :=
  ⟨memoryNodes, memoryAdmin, monitor⟩

def withStore (d : Deployment) (store : Store) : Deployment := { d with store }

theorem spares_memoryNodes : memoryNodes.Spares store := NodeAccess.spares_within fun _ _ => rfl

theorem keeps_store_backends (g : Option UInt32) (status : Option Status) :
    Keeps store (memoryAdmin.backends g status) := by
  have hlist : Keeps id (Store.listBackends g status) := Store.keeps_listBackends g status
  exact hlist.within fun _ _ => rfl

theorem load_of_down (monitor : Option Credentials) (h : d.store.isDown = true) (g : UInt32)
    (rest : List UInt32) :
    (reconciler monitor).load (g :: rest) d = .error Store.refused d := by
  have hrefused : Store.listBackends (some g) none d.store = .error Store.refused d.store :=
    bind_eq_error.2 (.inl (Store.reachable_of_down h))
  have hwithin : Action.within store (fun store d => d.withStore store)
      (Store.listBackends (some g) none) d = .error Store.refused d :=
    within_eq_error.2 ⟨d.store, hrefused, rfl⟩
  have hlist : memoryAdmin.backends (some g) none d = .error Store.refused d := hwithin
  have hfirst : memoryAdmin.backendsOrNone g d = .error Store.refused d := by
    rw [AdminStore.backendsOrNone, hlist]
    rfl
  exact bind_eq_error.2 (.inl (bind_eq_error.2 (.inl hfirst)))

theorem load_of_up (monitor : Option Credentials) (h : d.store.isDown = false)
    (groups : List UInt32) :
    ∃ current, (reconciler monitor).load groups d = .ok current d :=
  Reconciler.exists_load ((Store.lists_of_up h).within rfl) groups

/-- The status of a row is set only where the row is. -/
theorem applies_writes (hne : req.writerGroup ≠ req.readerGroup) {current : BackendSet}
    {d' : Deployment}
    (hload : (reconciler monitor).load [req.writerGroup, req.readerGroup] d = .ok current d')
    (health : HealthMap) : ∀ m ∈ req.writes health current, m.Applies d.store.backends := by
  have hgroups : [req.writerGroup, req.readerGroup].Nodup := by simp [hne]
  have hcurrent := Reconciler.get?_of_load tabled_memoryAdmin hgroups hload
  have hloaded : ∀ b ∈ current.rows, b.hostgroup ∈ [req.writerGroup, req.readerGroup] :=
    fun b hb => ((Reconciler.mem_of_load tabled_memoryAdmin hload).1 hb).2
  intro m hm
  apply BackendSet.applies_diff hm
  intro hplanned
  have hin : m.key.hostgroup ∈ [req.writerGroup, req.readerGroup] :=
    ((req.context health).reshaped_plan current).hostgroup_mem hloaded hplanned
  rw [hcurrent, if_pos hin]

theorem commit_of_up (h : d.store.isDown = false) {ms : List Mutation}
    (hms : ∀ m ∈ ms, m.Applies d.store.backends) :
    (reconciler monitor).commit ms d = .ok () (d.withStore
      (((d.store.assign (reconciler monitor).monitorVariables).perform ms).record .reload)) ∨
    ∃ k < ms.length, d.store.writesLeft = some k ∧
      (reconciler monitor).commit ms d = .error Store.lost (d.withStore
        (((d.store.assign (reconciler monitor).monitorVariables).perform (ms.take k)).record
          .reload)) := by
  have hwithin : (reconciler monitor).commit ms =
      Action.within store (fun store d => d.withStore store)
        ((Reconciler.mk PlanContext.unusedNodes Store.admin monitor).commit ms) :=
    Reconciler.commit_within store (fun store d => d.withStore store) (fun _ _ => rfl)
      (fun _ => rfl) (fun _ _ _ => rfl) memoryNodes PlanContext.unusedNodes Store.admin monitor ms
  rw [hwithin]
  rcases Store.commit_of_up (r := Reconciler.mk PlanContext.unusedNodes Store.admin monitor) rfl h
    hms with hall | ⟨k, hk, hleft, herror⟩
  · exact .inl (within_eq_ok.2 ⟨_, hall, rfl⟩)
  · exact .inr ⟨k, hk, hleft, within_eq_error.2 ⟨_, herror, rfl⟩⟩

theorem store_of_survey {health : HealthMap} {d₁ : Deployment}
    (h : (reconciler monitor).survey req.seeds d = .ok health d₁) : d₁.store = d.store :=
  (Reconciler.keeps_survey spares_memoryNodes req.seeds).ok h

theorem store_of_survey_error {e : PassError} {d₁ : Deployment}
    (h : (reconciler monitor).survey req.seeds d = .error e d₁) : d₁.store = d.store :=
  (Reconciler.keeps_survey spares_memoryNodes req.seeds).error h

/-- With the members surveyed and the store up, the pass makes all of its writes, or those
that the store still took. -/
theorem reconcile_of_up (hne : req.writerGroup ≠ req.readerGroup) {health : HealthMap}
    {d₁ : Deployment} (hsurvey : (reconciler monitor).survey req.seeds d = .ok health d₁)
    (hup : d.store.isDown = false) :
    ∃ current, (reconciler monitor).load [req.writerGroup, req.readerGroup] d₁ = .ok current d₁ ∧
      ((reconciler monitor).reconcile req d =
          .ok ⟨((req.context health).plan current).writer, req.writes health current⟩
            (d₁.withStore (((d.store.assign (reconciler monitor).monitorVariables).perform
              (req.writes health current)).record .reload)) ∨
        ∃ k < (req.writes health current).length, d.store.writesLeft = some k ∧
          (reconciler monitor).reconcile req d = .error Store.lost
            (d₁.withStore (((d.store.assign (reconciler monitor).monitorVariables).perform
              ((req.writes health current).take k)).record .reload))) := by
  rw [← store_of_survey hsurvey] at hup ⊢
  obtain ⟨current, hload⟩ := load_of_up monitor hup [req.writerGroup, req.readerGroup]
  have hpass : (reconciler monitor).reconcile req d = (do
      (reconciler monitor).commit (req.writes health current)
      return ⟨((req.context health).plan current).writer, req.writes health current⟩
      : Action Deployment Report) d₁ := (bind_of_ok hsurvey).trans (bind_of_ok hload)
  refine ⟨current, hload, ?_⟩
  rw [hpass]
  rcases commit_of_up hup (applies_writes hne hload health) with hall | ⟨k, hk, hleft, herror⟩
  · exact .inl (bind_of_ok hall)
  · exact .inr ⟨k, hk, hleft, bind_eq_error.2 (.inl herror)⟩

/-- How a pass ends: before anything is written, because the members were not found or the
store is down; with all of its writes; or with those that the store still took. -/
theorem reconcile_cases (monitor : Option Credentials) (hne : req.writerGroup ≠ req.readerGroup)
    (d : Deployment) :
    (∃ e d', (reconciler monitor).reconcile req d = .error e d' ∧ d'.store = d.store ∧
      (e.OfMembers ∨ e = Store.refused)) ∨
    ∃ health d₁ current, (reconciler monitor).survey req.seeds d = .ok health d₁ ∧
      d₁.store = d.store ∧
      (reconciler monitor).load [req.writerGroup, req.readerGroup] d₁ = .ok current d₁ ∧
      ((reconciler monitor).reconcile req d =
          .ok ⟨((req.context health).plan current).writer, req.writes health current⟩
            (d₁.withStore (((d.store.assign (reconciler monitor).monitorVariables).perform
              (req.writes health current)).record .reload)) ∨
        ∃ k < (req.writes health current).length, d.store.writesLeft = some k ∧
          (reconciler monitor).reconcile req d = .error Store.lost
            (d₁.withStore (((d.store.assign (reconciler monitor).monitorVariables).perform
              ((req.writes health current).take k)).record .reload))) := by
  cases hsurvey : (reconciler monitor).survey req.seeds d with
  | error e d₁ =>
    exact .inl ⟨e, d₁, bind_eq_error.2 (.inl hsurvey), store_of_survey_error hsurvey,
      .inl ((Reconciler.fails_survey req.seeds).error hsurvey)⟩
  | ok health d₁ =>
    have hstore := store_of_survey hsurvey
    cases hup : d.store.isDown with
    | true =>
      have hload := load_of_down monitor (hstore ▸ hup) req.writerGroup [req.readerGroup]
      exact .inl ⟨_, d₁, bind_eq_error.2 (.inr ⟨health, d₁, hsurvey,
        bind_eq_error.2 (.inl hload)⟩), hstore, .inr rfl⟩
    | false =>
      obtain ⟨current, hload, hend⟩ := reconcile_of_up hne hsurvey hup
      exact .inr ⟨health, d₁, current, rfl, hstore, hload, hend⟩

end Deployment

end SingleWriter
