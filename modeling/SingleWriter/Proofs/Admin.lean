import SingleWriter.Proofs.Collections
import SingleWriter.Proofs.Effects
import SingleWriter.Proofs.Writes
import SingleWriter.Reconciler
import SingleWriter.Store

/-!
# Rows behind an admin store

An admin store is tabled when its rows are a table that the state shows: a write that
succeeds has its effect on the table, one that fails has none, nothing else touches the
table, and a hostgroup lists its rows. The store in memory is tabled, and so it is as
part of a larger state. Over a tabled store the writes of a pass that succeed have their
whole effect, and those of a pass that fails have the effect of a prefix.
-/

set_option autoImplicit false

namespace SingleWriter

open SingleWriter.Action

variable {σ τ : Type} {table : σ → BackendSet}

structure AdminStore.Tabled (admin : AdminStore σ) (table : σ → BackendSet) : Prop where
  register : ∀ b, Makes table (Mutation.register b).effect (admin.register b)
  deregister : ∀ b, Makes table (Mutation.deregister b).effect (admin.deregister b)
  setStatus : ∀ b, Makes table (Mutation.setStatus b).effect (admin.setStatus b b.status)
  setVariable : ∀ name value, Keeps table (admin.setVariable name value)
  reload : Keeps table admin.reload
  backends : ∀ g status, Keeps table (admin.backends g status)
  listed : ∀ {g s rows t}, admin.backends (some g) none s = .ok rows t →
    rows.Perm ((table s).inHostgroup g)
  unlisted : ∀ {g g' s t}, admin.backends (some g) none s = .error (.noBackends g') t →
    (table s).inHostgroup g = []

def AdminStore.Lists (admin : AdminStore σ) (s : σ) : Prop :=
  ∀ g, (∃ rows, admin.backends (some g) none s = .ok rows s) ∨
    ∃ g', admin.backends (some g) none s = .error (.noBackends g') s

/-! ## The store in memory -/

namespace Store

theorem keeps_reachable {view : Store → τ} : Keeps view reachable := by
  constructor <;> intro s t a h <;> unfold reachable at h <;> split at h <;> cases h <;> rfl

theorem keeps_acceptWrite : Keeps Store.backends acceptWrite := by
  constructor <;> intro s t a h <;> unfold acceptWrite at h <;> split at h
  · cases h
  · split at h <;> cases h <;> rfl
  · cases h
    rfl
  · split at h <;> cases h
    rfl

theorem keeps_note (call : Call) : Keeps Store.backends (note call) := by
  constructor <;> intro s t a h <;> cases h
  rfl

theorem makes_register (b : Backend) :
    Makes Store.backends (Mutation.register b).effect (register b) := by
  apply keeps_acceptWrite.bind
  intro _
  constructor <;> intro s t a h <;> cases h
  rfl

theorem makes_deregister (b : Backend) :
    Makes Store.backends (Mutation.deregister b).effect (deregister b) := by
  apply keeps_acceptWrite.bind
  intro _
  constructor <;> intro s t a h <;> cases h
  rfl

theorem makes_setStatus (b : Backend) :
    Makes Store.backends (Mutation.setStatus b).effect (setStatus b b.status) := by
  apply keeps_acceptWrite.bind
  intro _
  constructor <;> intro s t a h
  · obtain ⟨_, _, ⟨⟩, h⟩ := bind_eq_ok.1 h
    split at h <;> cases h
    rfl
  · obtain h | ⟨_, _, ⟨⟩, h⟩ := bind_eq_error.1 h
    · cases h
    · split at h <;> cases h
      rfl

/-- Listing reads the store and leaves all of it. -/
theorem keeps_listBackends {view : Store → τ} (g : Option UInt32) (status : Option Status) :
    Keeps view (listBackends g status) := by
  apply keeps_reachable.bind
  intro _
  apply Keeps.bind
  · constructor <;> intro s t a h <;> cases h
    rfl
  · intro s
    split
    · exact keeps_throw _
    · exact keeps_pure _

theorem filter_isListed (s : BackendSet) (g : UInt32) :
    s.rows.filter (isListed (some g) none) = s.inHostgroup g := by
  apply List.filter_congr
  intro b _
  simp [isListed]

theorem perm_sorted (rows : List Backend) : (sorted rows).Perm rows := List.mergeSort_perm rows _

theorem perm_of_listBackends {g : UInt32} {s t : Store} {rows : List Backend}
    (h : listBackends (some g) none s = .ok rows t) : rows.Perm (s.backends.inHostgroup g) := by
  obtain ⟨_, u, hu, h⟩ := bind_eq_ok.1 h
  obtain ⟨_, _, ⟨⟩, h⟩ := bind_eq_ok.1 h
  have hkeep : Keeps Store.backends reachable := keeps_reachable
  have hs : u.backends = s.backends := hkeep.ok hu
  have hperm := perm_sorted (u.backends.rows.filter (isListed (some g) none))
  cases hrows : sorted (u.backends.rows.filter (isListed (some g) none)) with
  | nil =>
    simp only [hrows] at h
    exact absurd h throw_ne_ok
  | cons b rest =>
    simp only [hrows] at h
    rw [← (pure_eq_ok.1 h).1, ← hrows, ← hs, ← filter_isListed]
    exact hperm

theorem inHostgroup_of_listBackends {g g' : UInt32} {s t : Store}
    (h : listBackends (some g) none s = .error (.noBackends g') t) :
    s.backends.inHostgroup g = [] := by
  obtain h | ⟨_, u, hu, h⟩ := bind_eq_error.1 h
  · unfold reachable at h
    split at h <;> cases h
  · obtain h | ⟨_, _, ⟨⟩, h⟩ := bind_eq_error.1 h
    · cases h
    · have hkeep : Keeps Store.backends reachable := keeps_reachable
      have hs : u.backends = s.backends := hkeep.ok hu
      have hperm := perm_sorted (u.backends.rows.filter (isListed (some g) none))
      cases hrows : sorted (u.backends.rows.filter (isListed (some g) none)) with
      | nil =>
        rw [hrows, filter_isListed, hs] at hperm
        exact hperm.symm.eq_nil
      | cons b rest =>
        simp only [hrows] at h
        cases h

theorem reachable_of_up {s : Store} (h : s.isDown = false) : reachable s = .ok () s := by
  unfold reachable
  rw [h]
  rfl

/-- A store that is up lists its rows or says that there are none. -/
theorem lists_of_up {s : Store} (h : s.isDown = false) : admin.Lists s := by
  intro g
  have hget : (get : Action Store Store) s = .ok s s := rfl
  cases hrows : sorted (s.backends.rows.filter (isListed (some g) none)) with
  | nil =>
    refine .inr ⟨g, (bind_of_ok (reachable_of_up h)).trans ((bind_of_ok hget).trans ?_)⟩
    simp only [hrows]
    rfl
  | cons b rest =>
    refine .inl ⟨b :: rest, (bind_of_ok (reachable_of_up h)).trans ((bind_of_ok hget).trans ?_)⟩
    simp only [hrows]
    rfl

theorem tabled_admin : admin.Tabled Store.backends where
  register := makes_register
  deregister := makes_deregister
  setStatus := makes_setStatus
  setVariable name value := by
    apply keeps_reachable.bind
    intro _
    constructor <;> intro s t a h <;> cases h
    rfl
  reload := keeps_reachable.bind fun _ => keeps_note .reload
  backends := keeps_listBackends
  listed := perm_of_listBackends
  unlisted := inHostgroup_of_listBackends

end Store

namespace AdminStore

variable {admin : AdminStore σ}

/-- A tabled store stays tabled as a part of a larger state. -/
theorem Tabled.within {part : τ → σ} {replace : σ → τ → τ} (h : admin.Tabled table)
    (hpart : ∀ s t, part (replace s t) = s) :
    (admin.within part replace).Tabled fun t => table (part t) where
  register b := (h.register b).within hpart
  deregister b := (h.deregister b).within hpart
  setStatus b := (h.setStatus b).within hpart
  setVariable name value := (h.setVariable name value).within hpart
  reload := h.reload.within hpart
  backends g status := (h.backends g status).within hpart
  listed := by
    intro g t rows u hu
    obtain ⟨s, hs, -⟩ := within_eq_ok.1 hu
    exact h.listed hs
  unlisted := by
    intro g g' t u hu
    obtain ⟨s, hs, -⟩ := within_eq_error.1 hu
    exact h.unlisted hs

theorem Lists.within {part : τ → σ} {replace : σ → τ → τ} {u : τ} (h : admin.Lists (part u))
    (hsame : replace (part u) u = u) : (admin.within part replace).Lists u := by
  intro g
  rcases h g with ⟨rows, hrows⟩ | ⟨g', hnone⟩
  · exact .inl ⟨rows, within_eq_ok.2 ⟨part u, hrows, hsame⟩⟩
  · exact .inr ⟨g', within_eq_error.2 ⟨part u, hnone, hsame⟩⟩

end AdminStore

/-! ## Writes of a pass -/

theorem BackendSet.foldl_effect (ms : List Mutation) (s : BackendSet) :
    ms.foldl (fun s m => m.effect s) s = written ms s := by
  induction ms generalizing s with
  | nil => rfl
  | cons m ms ih => exact ih (m.effect s)

namespace Reconciler

variable {r : Reconciler σ} {s : σ}

theorem makes_applyOne (h : r.admin.Tabled table) (m : Mutation) :
    Makes table m.effect (r.applyOne m) := by
  cases m with
  | register b => exact h.register b
  | deregister b => exact h.deregister b
  | setStatus b => exact h.setStatus b

theorem keeps_monitorVariables (h : r.admin.Tabled table) :
    Keeps table (each (fun v => r.admin.setVariable v.1 v.2) r.monitorVariables) :=
  Keeps.each (fun v => h.setVariable v.1 v.2) r.monitorVariables

theorem apply_cases (h : r.admin.Tabled table) (ms : List Mutation) (s : σ) :
    (∃ t, r.apply ms s = .ok () t ∧ table t = BackendSet.written ms (table s)) ∨
    (∃ e t, r.apply ms s = .error e t ∧
      ∃ done, done <+: ms ∧ table t = BackendSet.written done (table s)) := by
  have hvars := keeps_monitorVariables h
  unfold Reconciler.apply
  cases hs : each (fun v => r.admin.setVariable v.1 v.2) r.monitorVariables s with
  | ok _ u =>
    have hu : table u = table s := hvars.ok hs
    rw [bind_of_ok hs]
    rcases each_cases (makes_applyOne h) ms u with
      ⟨t, ht, hv⟩ | ⟨e, t, ht, done, m, _, hpre, -, -, hv⟩
    · exact .inl ⟨t, ht, by rw [hv, hu, BackendSet.foldl_effect]⟩
    · refine .inr ⟨e, t, ht, done, ?_, by rw [hv, hu, BackendSet.foldl_effect]⟩
      exact (List.prefix_append done [m]).trans hpre
  | error e u =>
    refine .inr ⟨e, u, bind_eq_error.2 (.inl hs), [], List.nil_prefix, ?_⟩
    exact hvars.error hs

/-- Whether a pass commits its writes or not, they have the effect of a prefix. -/
theorem commit_cases (h : r.admin.Tabled table) (ms : List Mutation) (s : σ) :
    (∃ t, r.commit ms s = .ok () t ∧ table t = BackendSet.written ms (table s)) ∨
    (∃ e t, r.commit ms s = .error e t ∧
      ∃ done, done <+: ms ∧ table t = BackendSet.written done (table s)) := by
  unfold commit
  rcases apply_cases h ms s with ⟨u, hu, hv⟩ | ⟨e, u, hu, done, hpre, hv⟩
  · rw [hu]
    cases ht : r.admin.reload u with
    | ok _ t => exact .inl ⟨t, ht, (h.reload.ok ht).trans hv⟩
    | error e t => exact .inr ⟨e, t, ht, ms, List.prefix_rfl, (h.reload.error ht).trans hv⟩
  · rw [hu]
    cases ht : r.admin.reload u with
    | ok _ t => exact .inr ⟨e, t, by simp only [ht], done, hpre, (h.reload.ok ht).trans hv⟩
    | error _ t => exact .inr ⟨e, t, by simp only [ht], done, hpre, (h.reload.error ht).trans hv⟩

theorem table_of_commit (h : r.admin.Tabled table) {ms : List Mutation} {t : σ}
    (hcommit : r.commit ms s = .ok () t) : table t = BackendSet.written ms (table s) := by
  rcases commit_cases h ms s with ⟨u, hu, hv⟩ | ⟨e, u, hu, -⟩
  · rw [hcommit] at hu
    cases hu
    exact hv
  · rw [hcommit] at hu
    cases hu

end Reconciler

/-! ## Rows of a pass -/

namespace BackendSet

theorem mem_flatMap_inHostgroup {s : BackendSet} {groups : List UInt32} {b : Backend} :
    b ∈ groups.flatMap s.inHostgroup ↔ b ∈ s.rows ∧ b.hostgroup ∈ groups := by
  simp only [List.mem_flatMap, inHostgroup, List.mem_filter, decide_eq_true_eq]
  constructor
  · rintro ⟨g, hg, hb, rfl⟩
    exact ⟨hb, hg⟩
  · rintro ⟨hb, hg⟩
    exact ⟨b.hostgroup, hg, hb, rfl⟩

theorem nodup_key_flatMap (s : BackendSet) {groups : List UInt32} (hg : groups.Nodup) :
    ((groups.flatMap s.inHostgroup).map Backend.key).Nodup := by
  induction groups with
  | nil => simp
  | cons g rest ih =>
    obtain ⟨hfresh, hrest⟩ := List.nodup_cons.1 hg
    rw [List.flatMap_cons, List.map_append, List.nodup_append]
    refine ⟨(List.Sublist.map Backend.key List.filter_sublist).nodup s.nodup, ih hrest, ?_⟩
    intro k hk j hj hkj
    obtain ⟨b, hb, rfl⟩ := List.mem_map.1 hk
    obtain ⟨c, hc, rfl⟩ := List.mem_map.1 hj
    have hbg : b.hostgroup = g := by simpa using (List.mem_filter.1 hb).2
    have hcg := (mem_flatMap_inHostgroup.1 hc).2
    apply hfresh
    rw [← hbg, show b.hostgroup = c.hostgroup from congrArg Backend.Key.hostgroup hkj]
    exact hcg

end BackendSet

namespace Reconciler

variable {r : Reconciler σ} {s : σ} {view : σ → τ}

theorem keeps_backendsOrNone (h : ∀ g status, Keeps view (r.admin.backends g status))
    (g : UInt32) : Keeps view (r.admin.backendsOrNone g) := by
  constructor <;> intro s t a ht <;> unfold AdminStore.backendsOrNone at ht <;>
    split at ht <;> cases ht
  · exact (h _ _).ok ‹_›
  · exact (h _ _).error ‹_›
  · exact (h _ _).error ‹_›

theorem perm_backendsOrNone (h : r.admin.Tabled table) {g : UInt32} {t : σ} {rows : List Backend}
    (ht : r.admin.backendsOrNone g s = .ok rows t) : rows.Perm ((table s).inHostgroup g) := by
  unfold AdminStore.backendsOrNone at ht
  split at ht <;> cases ht
  · exact h.listed ‹_›
  · rw [h.unlisted ‹_›]

theorem keeps_loadRows (h : ∀ g status, Keeps view (r.admin.backends g status))
    (groups : List UInt32) : Keeps view (r.loadRows groups) := by
  induction groups with
  | nil => exact keeps_pure []
  | cons g rest ih =>
    exact (keeps_backendsOrNone h g).bind fun _ => ih.bind fun _ => keeps_pure _

theorem keeps_load (h : ∀ g status, Keeps view (r.admin.backends g status))
    (groups : List UInt32) : Keeps view (r.load groups) :=
  (keeps_loadRows h groups).bind fun _ => keeps_pure _

theorem exists_loadRows (h : r.admin.Lists s) (groups : List UInt32) :
    ∃ rows, r.loadRows groups s = .ok rows s := by
  induction groups with
  | nil => exact ⟨[], rfl⟩
  | cons g rest ih =>
    have hfirst : ∃ rows, r.admin.backendsOrNone g s = .ok rows s := by
      unfold AdminStore.backendsOrNone
      rcases h g with ⟨rows, hrows⟩ | ⟨g', hnone⟩
      · exact ⟨rows, by rw [hrows]⟩
      · exact ⟨[], by rw [hnone]⟩
    obtain ⟨rows, hrows⟩ := hfirst
    obtain ⟨others, hothers⟩ := ih
    exact ⟨rows ++ others, (bind_of_ok hrows).trans (bind_of_ok hothers)⟩

theorem exists_load (h : r.admin.Lists s) (groups : List UInt32) :
    ∃ current, r.load groups s = .ok current s := by
  obtain ⟨rows, hrows⟩ := exists_loadRows h groups
  exact ⟨Table.ofList rows, bind_of_ok hrows⟩

/-- The rows of the hostgroups stand one hostgroup after the other, each in some order. -/
theorem perm_loadRows (h : r.admin.Tabled table) {groups : List UInt32} {t : σ}
    {rows : List Backend} (ht : r.loadRows groups s = .ok rows t) :
    rows.Perm (groups.flatMap (table s).inHostgroup) := by
  induction groups generalizing s t rows with
  | nil =>
    rw [← (pure_eq_ok.1 ht).1]
    rfl
  | cons g rest ih =>
    obtain ⟨first, u, hu, ht⟩ := bind_eq_ok.1 ht
    obtain ⟨others, v, hv, ht⟩ := bind_eq_ok.1 ht
    have hsame : table u = table s := (keeps_backendsOrNone h.backends g).ok hu
    have hothers := ih hv
    rw [hsame] at hothers
    rw [← (pure_eq_ok.1 ht).1, List.flatMap_cons]
    exact (perm_backendsOrNone h hu).append hothers

theorem rows_of_load (h : r.admin.Tabled table) {groups : List UInt32} (hg : groups.Nodup) {t : σ}
    {current : BackendSet} (ht : r.load groups s = .ok current t) :
    current.rows.Perm (groups.flatMap (table s).inHostgroup) := by
  obtain ⟨rows, u, hu, ht⟩ := bind_eq_ok.1 ht
  have hperm := perm_loadRows h hu
  have hnodup := (hperm.map Backend.key).nodup_iff.2 (BackendSet.nodup_key_flatMap (table s) hg)
  rw [← (pure_eq_ok.1 ht).1, Table.rows_ofList hnodup]
  exact hperm

/-- A hostgroup that is named again adds no row. -/
theorem mem_of_load (h : r.admin.Tabled table) {groups : List UInt32} {t : σ}
    {current : BackendSet} (ht : r.load groups s = .ok current t) {b : Backend} :
    b ∈ current.rows ↔ b ∈ (table s).rows ∧ b.hostgroup ∈ groups := by
  obtain ⟨rows, u, hu, ht⟩ := bind_eq_ok.1 ht
  have hrows : ∀ c, c ∈ rows ↔ c ∈ (table s).rows ∧ c.hostgroup ∈ groups := by
    intro c
    rw [(perm_loadRows h hu).mem_iff, BackendSet.mem_flatMap_inHostgroup]
  rw [← (pure_eq_ok.1 ht).1, Table.mem_rows_ofList fun c hc => ((hrows c).1 hc).1, hrows]

/-- What is loaded is the part of the table that lies in the hostgroups. -/
theorem get?_of_load (h : r.admin.Tabled table) {groups : List UInt32} (hg : groups.Nodup) {t : σ}
    {current : BackendSet} (ht : r.load groups s = .ok current t) (k : Backend.Key) :
    current.get? k = if k.hostgroup ∈ groups then (table s).get? k else none := by
  ext b
  rw [Table.get?_eq_some_iff, (rows_of_load h hg ht).mem_iff, BackendSet.mem_flatMap_inHostgroup]
  constructor
  · rintro ⟨⟨hb, hgroup⟩, rfl⟩
    have hin : b.key.hostgroup ∈ groups := hgroup
    rw [if_pos hin]
    exact Table.get?_key hb
  · intro hb
    split at hb
    · rename_i hin
      obtain ⟨hrow, rfl⟩ := Table.get?_eq_some_iff.1 hb
      exact ⟨⟨hrow, hin⟩, rfl⟩
    · cases hb

end Reconciler

end SingleWriter
