import Mathlib
import SingleWriter.Cluster
import SingleWriter.Proofs.Ledger
import SingleWriter.Proofs.Overrides
import SingleWriter.Proofs.Passes

/-!
# Runs

A run is any sequence of passes and overrides on one pair of hostgroups, between which
the cluster and the store change as they like. Every reload publishes the rows as they
stand. From a single online writer, no pass puts a second one online, at whatever write it
ends. An override does so exactly when it takes the writer row of its address to `ONLINE`
beside another online writer, and a run keeps to a single writer exactly when no override
of it does.
-/

set_option autoImplicit false

namespace SingleWriter

open SingleWriter.Action

def Store.Accepts (s : Store) : Prop := s.isDown = false ∧ s.writesLeft ≠ some 0

namespace Store

theorem acceptWrite_cases (s : Store) :
    (s.Accepts ∧ ∃ t, acceptWrite s = .ok () t) ∨
      (¬ s.Accepts ∧ ∃ e t, acceptWrite s = .error e t) := by
  unfold acceptWrite Accepts
  cases hup : s.isDown with
  | true => simp
  | false =>
    match hleft : s.writesLeft with
    | none => simp
    | some 0 => simp
    | some (n + 1) => simp

theorem exists_error_register_iff {b : Backend} {s : Store} :
    (∃ e t, register b s = .error e t) ↔ ¬ s.Accepts := by
  rcases acceptWrite_cases s with ⟨haccepts, u, hu⟩ | ⟨hrefuses, e, u, hu⟩
  · have hdone : register b s =
        (modify (insert b) >>= fun _ => note (.register b.key b.status)) u := bind_of_ok hu
    rw [hdone]
    constructor
    · rintro ⟨e, t, h⟩
      cases h
    · intro h
      exact absurd haccepts h
  · exact ⟨fun _ => hrefuses, fun _ => ⟨e, u, bind_eq_error.2 (.inl hu)⟩⟩

end Store

/-- A cluster and a store, and the rows that the router was made to load, reload after
reload. -/
structure Watched where
  cluster : Cluster
  store : Store
  published : List BackendSet

namespace Watched

def withStore (store : Store) (w : Watched) : Watched := { w with store }

def table (w : Watched) : BackendSet := w.store.backends

def nodes : NodeAccess Watched := Cluster.access.within cluster fun cluster w => { w with cluster }

def reload : Action Watched Unit := do
  Action.within store withStore Store.reload
  modify fun w => { w with published := w.published ++ [w.table] }

def admin : AdminStore Watched := { Store.admin.within store withStore with reload := reload }

theorem spares_nodes : nodes.Spares table := NodeAccess.spares_within fun _ _ => rfl

theorem spares_nodes_published : nodes.Spares published := NodeAccess.spares_within fun _ _ => rfl

theorem keeps_reload : Keeps table reload := by
  apply Keeps.bind
  · exact Store.tabled_admin.reload.within fun _ _ => rfl
  · intro _
    constructor <;> intro s t a h <;> cases h
    rfl

theorem tabled_admin : admin.Tabled table :=
  { Store.tabled_admin.within fun _ _ => rfl with reload := keeps_reload }

/-! ## What is published -/

def Publishes {α : Type} (x : Action Watched α) : Prop :=
  ∀ w, (stateAfter x w).published = w.published ∨
    (stateAfter x w).published = w.published ++ [table (stateAfter x w)]

theorem publishes_bind {α β : Type} {x : Action Watched α} {f : α → Action Watched β}
    (hx : Keeps published x) (hf : ∀ a, Publishes (f a)) : Publishes (x >>= f) := by
  intro w
  cases h : x w with
  | ok a v =>
    have hv : v.published = w.published := hx.ok h
    rw [stateAfter_bind_of_ok h, ← hv]
    exact hf a v
  | error e v =>
    rw [stateAfter_bind_of_error h]
    exact .inl (hx.error h)

theorem reload_cases (w : Watched) :
    (reload w = .ok () { w with
        store := w.store.record .reload, published := w.published ++ [table w] }) ∨
      ∃ e, reload w = .error e w := by
  rcases Store.reload_cases w.store with hok | herror
  · exact .inl (bind_of_ok (within_eq_ok.2 ⟨_, hok, rfl⟩))
  · exact .inr ⟨_, bind_eq_error.2 (.inl (within_eq_error.2 ⟨_, herror, rfl⟩))⟩

theorem publishes_reload : Publishes reload := by
  intro w
  rcases reload_cases w with h | ⟨e, h⟩
  · rw [stateAfter_of_ok h]
    exact .inr rfl
  · rw [stateAfter_of_error h]
    exact .inl rfl

theorem publishes_map {α β : Type} {x : Action Watched α} (hx : Publishes x) (f : α → β) :
    Publishes (x >>= fun a => pure (f a)) := by
  intro w
  have hstate : id (stateAfter (x >>= fun a => pure (f a)) w) = id (stateAfter x w) :=
    view_stateAfter_bind (fun _ => keeps_pure _) w
  simp only [id] at hstate
  rw [hstate]
  exact hx w

variable (monitor : Option Credentials)

def reconciler : Reconciler Watched := ⟨nodes, admin, monitor⟩

theorem keeps_published_within {α : Type} {x : Action Store α} :
    Keeps published (Action.within store withStore x) :=
  keeps_within fun _ _ => rfl

theorem keeps_published_applyOne (m : Mutation) :
    Keeps published ((reconciler monitor).applyOne m) := by
  cases m <;> exact keeps_published_within

theorem keeps_published_apply (ms : List Mutation) :
    Keeps published ((reconciler monitor).apply ms) := by
  apply Keeps.bind
  · apply Keeps.each
    intro v
    exact keeps_published_within
  · intro _
    exact Keeps.each (keeps_published_applyOne monitor) ms

theorem keeps_published_load (groups : List UInt32) :
    Keeps published ((reconciler monitor).load groups) := by
  apply Reconciler.keeps_load
  intro g status
  exact keeps_published_within

/-- The one reload of a commit publishes what its writes have left. -/
theorem publishes_commit (ms : List Mutation) : Publishes ((reconciler monitor).commit ms) := by
  intro w
  have hkeep := keeps_published_apply monitor ms
  cases h : (reconciler monitor).apply ms w with
  | ok a v =>
    have hv : v.published = w.published := hkeep.ok h
    have hstate : stateAfter ((reconciler monitor).commit ms) w = stateAfter reload v := by
      simp only [stateAfter, Reconciler.commit, h]
      rfl
    rw [hstate, ← hv]
    exact publishes_reload v
  | error e v =>
    have hv : v.published = w.published := hkeep.error h
    have hstate : stateAfter ((reconciler monitor).commit ms) w = stateAfter reload v := by
      have hreload : (reconciler monitor).admin.reload v = reload v := rfl
      simp only [stateAfter, Reconciler.commit, h, hreload]
      cases reload v <;> rfl
    rw [hstate, ← hv]
    exact publishes_reload v

theorem publishes_reconcile (req : PassRequest) :
    Publishes ((reconciler monitor).reconcile req) := by
  apply publishes_bind (Reconciler.keeps_survey spares_nodes_published req.seeds)
  intro health
  apply publishes_bind (keeps_published_load monitor _)
  intro current
  exact publishes_map (publishes_commit monitor _) _

theorem publishes_setOverride (groups : List UInt32) (addr : Addr) (status : Option Status) :
    Publishes ((reconciler monitor).setOverride groups addr status) := by
  apply publishes_bind (keeps_published_load monitor groups)
  intro current
  apply publishes_bind
  · apply Keeps.each
    intro b
    exact keeps_published_within
  · intro _
    have hreload := publishes_map publishes_reload fun _ =>
      (current.rows.filter (·.addr = addr)).length
    split
    · exact publishes_bind (keeps_throw _) fun _ => hreload
    · exact hreload

/-- An override that succeeds ends in a reload. -/
theorem published_of_setOverride {groups : List UInt32} {addr : Addr} {status : Option Status}
    {n : Nat} {w v : Watched}
    (h : (reconciler monitor).setOverride groups addr status w = .ok n v) :
    v.published = w.published ++ [table v] := by
  obtain ⟨current, u, hu, h⟩ := bind_eq_ok.1 h
  have hpu : u.published = w.published := (keeps_published_load monitor groups).ok hu
  obtain ⟨_, x, hx, h⟩ := bind_eq_ok.1 h
  have hpx : x.published = u.published := by
    refine (Keeps.each (fun b => ?_) _).ok hx
    exact keeps_published_within
  have hreload : ∃ y, reload x = .ok () y ∧ v = y := by
    split at h
    · obtain ⟨_, _, hthrow, -⟩ := bind_eq_ok.1 h
      exact absurd hthrow throw_ne_ok
    · obtain ⟨_, y, hy, h⟩ := bind_eq_ok.1 h
      exact ⟨y, hy, (pure_eq_ok.1 h).2.symm⟩
  obtain ⟨y, hy, rfl⟩ := hreload
  rcases reload_cases x with hok | ⟨e, herror⟩
  · rw [hok] at hy
    cases hy
    rw [← hpu, ← hpx]
    rfl
  · rw [herror] at hy
    cases hy

/-! ## What an override registers -/

theorem keeps_store_within_backends (g : Option UInt32) (status : Option Status) :
    Keeps store ((reconciler monitor).admin.backends g status) := by
  have hlist : Keeps id (Store.listBackends g status) := Store.keeps_listBackends g status
  exact hlist.within fun _ _ => rfl

theorem isDown_of_load {groups : List UInt32} {w u : Watched} {e : PassError}
    (h : (reconciler monitor).load groups w = .error e u) : w.store.isDown = true := by
  by_contra hup
  have hlists : Store.admin.Lists w.store := Store.lists_of_up (by simpa using hup)
  have hwithin : (reconciler monitor).admin.Lists w := fun g => hlists.within rfl g
  obtain ⟨current, hload⟩ := Reconciler.exists_load hwithin groups
  rw [hload] at h
  cases h

theorem exists_error_register_iff {b : Backend} {w : Watched} :
    (∃ e u, admin.register b w = .error e u) ↔ ¬ w.store.Accepts := by
  have hwithin : admin.register b = Action.within store withStore (Store.register b) := rfl
  rw [← Store.exists_error_register_iff (b := b), hwithin]
  constructor
  · rintro ⟨e, u, h⟩
    obtain ⟨s, hs, -⟩ := within_eq_error.1 h
    exact ⟨e, s, hs⟩
  · rintro ⟨e, s, hs⟩
    exact ⟨e, _, within_eq_error.2 ⟨s, hs, rfl⟩⟩

/-- The writer row of the address is registered exactly when it is there and the store
takes a write, since it is the first one. -/
theorem mem_key_overridden_iff {g : UInt32} {rest : List UInt32} {w u : Watched}
    {current : BackendSet} (hg : (g :: rest).Nodup)
    (hload : (reconciler monitor).load (g :: rest) w = .ok current u) {addr : Addr}
    {status : Option Status} {done : List Backend}
    (hdone : (table w).OverriddenFrom current addr status done)
    (hfirst : ∀ b others, (current.rows.filter (·.addr = addr)).map
      (Reconciler.overridden status) = b :: others →
        (done = [] ↔ ∃ e t, admin.register b u = .error e t)) :
    ⟨g, addr⟩ ∈ done.map Backend.key ↔
      w.store.Accepts ∧ ∃ b, (table w).find? g addr = some b := by
  have hstore : u.store = w.store :=
    (Reconciler.keeps_load (keeps_store_within_backends monitor) _).ok hload
  have hsome : ∀ b others, (current.rows.filter (·.addr = addr)).map
      (Reconciler.overridden status) = b :: others → (done ≠ [] ↔ w.store.Accepts) := by
    intro b others h
    rw [ne_eq, hfirst b others h, exists_error_register_iff, not_not, hstore]
  constructor
  · intro hk
    obtain ⟨b, hb, hkey⟩ := List.mem_map.1 hk
    obtain ⟨old, hold, -, -⟩ := hdone.exists_old hb
    refine ⟨?_, old, by rw [BackendSet.find?, ← hkey, hold]⟩
    cases hrows : (current.rows.filter (·.addr = addr)).map (Reconciler.overridden status) with
    | nil =>
      have hmem := hdone.2.subset hb
      rw [hrows] at hmem
      cases hmem
    | cons c others => exact (hsome c others hrows).1 (List.ne_nil_of_mem hb)
  · rintro ⟨haccepts, b, hb⟩
    obtain ⟨first, others, hrows, hperm⟩ := Reconciler.rows_of_load_cons tabled_admin hg hload
    have hat : b ∈ first.filter (·.addr = addr) := by
      obtain ⟨hmem, hgroup, haddr⟩ := BackendSet.find?_eq_some_iff.1 hb
      have hin : b ∈ (table w).inHostgroup g := by simp [BackendSet.inHostgroup, hmem, hgroup]
      simp [hperm.mem_iff, hin, haddr]
    obtain ⟨c, more, hc⟩ := List.exists_cons_of_ne_nil (List.ne_nil_of_mem hat)
    have hcmem : c ∈ first.filter (·.addr = addr) := by simp [hc]
    have hcgroup : c.hostgroup = g := by
      have hin := hperm.mem_iff.1 (List.mem_filter.1 hcmem).1
      simpa [BackendSet.inHostgroup] using (List.mem_filter.1 hin).2
    have hcaddr : c.addr = addr := by simpa using (List.mem_filter.1 hcmem).2
    have hwrites : (current.rows.filter (·.addr = addr)).map (Reconciler.overridden status) =
        Reconciler.overridden status c ::
          (more ++ others.filter (·.addr = addr)).map (Reconciler.overridden status) := by
      rw [hrows, List.filter_append, hc, List.cons_append, List.map_cons]
    have hne := (hsome _ _ hwrites).2 haccepts
    obtain ⟨d, later, hd⟩ := List.exists_cons_of_ne_nil hne
    have hpre := hdone.2
    rw [hd, hwrites, List.cons_prefix_cons] at hpre
    rw [hd, hpre.1, List.map_cons, BackendSet.key_overridden, Backend.key, hcgroup, hcaddr]
    exact List.mem_cons_self

/-! ## Events -/

inductive Event where
  /-- The members and the store's willingness change. -/
  | surroundings (cluster : Cluster) (isDown : Bool) (writesLeft : Option Nat)
  | pass (seeds : List Addr) (blacklist : Blacklist)
  | override (addr : Addr) (status : Option Status)

structure Setting where
  writerGroup : UInt32
  readerGroup : UInt32
  monitor : Option Credentials := none

namespace Setting

variable (c : Setting)

def request (seeds : List Addr) (blacklist : Blacklist) : PassRequest :=
  ⟨c.writerGroup, c.readerGroup, seeds, blacklist⟩

def step (w : Watched) : Event → Watched
  | .surroundings cluster isDown writesLeft =>
    { w with cluster, store := { w.store with isDown, writesLeft } }
  | .pass seeds blacklist =>
    stateAfter ((reconciler c.monitor).reconcile (c.request seeds blacklist)) w
  | .override addr status =>
    stateAfter ((reconciler c.monitor).setOverride [c.writerGroup, c.readerGroup] addr status) w

def run : List Event → Watched → Watched
  | [], w => w
  | e :: events, w => run events (c.step w e)

theorem run_append (events rest : List Event) (w : Watched) :
    c.run (events ++ rest) w = c.run rest (c.run events w) := by
  induction events generalizing w with
  | nil => rfl
  | cons e events ih => exact ih (c.step w e)

/-- An override that the store takes would put the writer row of its address online beside
another online writer. -/
def Clashes (w : Watched) : Event → Prop
  | .override addr status => status = some .online ∧ w.store.Accepts ∧
    (∃ b, (table w).find? c.writerGroup addr = some b) ∧
    ∃ other, other ≠ addr ∧ (table w).OnlineAt c.writerGroup other
  | _ => False

/-! ## One event -/

theorem published_step (w : Watched) (e : Event) :
    (c.step w e).published = w.published ∨
      (c.step w e).published = w.published ++ [table (c.step w e)] := by
  cases e with
  | surroundings cluster isDown writesLeft => exact .inl rfl
  | pass seeds blacklist => exact publishes_reconcile c.monitor _ w
  | override addr status => exact publishes_setOverride c.monitor _ addr status w

/-- What an override leaves: all rows as they were when the store is down, else the rows
of the address overridden as far as the store took them. -/
theorem step_override (hne : c.writerGroup ≠ c.readerGroup) (w : Watched) (addr : Addr)
    (status : Option Status) :
    (w.store.isDown = true ∧ table (c.step w (.override addr status)) = table w) ∨
    ∃ current done, (table w).OverriddenFrom current addr status done ∧
      table (c.step w (.override addr status)) = done.foldl Table.insert (table w) ∧
      (⟨c.writerGroup, addr⟩ ∈ done.map Backend.key ↔
        w.store.Accepts ∧ ∃ b, (table w).find? c.writerGroup addr = some b) := by
  have hgroups : [c.writerGroup, c.readerGroup].Nodup := by simp [hne]
  cases hload : (reconciler c.monitor).load [c.writerGroup, c.readerGroup] w with
  | error e u =>
    have hstate : c.step w (.override addr status) = u := stateAfter_bind_of_error hload
    rw [hstate]
    exact .inl ⟨isDown_of_load c.monitor hload,
      (Reconciler.keeps_load tabled_admin.backends _).error hload⟩
  | ok current u =>
    obtain ⟨done, hdone, htable, hfirst⟩ :=
      Reconciler.stateAfter_setOverride tabled_admin hload addr status
    exact .inr ⟨current, done, hdone, htable,
      mem_key_overridden_iff c.monitor hgroups hload hdone hfirst⟩

theorem one_lt_length_onlineIn_step (hne : c.writerGroup ≠ c.readerGroup) {w : Watched} {e : Event}
    (h : c.Clashes w e) : 1 < ((table (c.step w e)).onlineIn c.writerGroup).length := by
  cases e with
  | surroundings cluster isDown writesLeft => exact h.elim
  | pass seeds blacklist => exact h.elim
  | override addr status =>
    obtain ⟨rfl, haccepts, hrow, other, hother, ho⟩ := h
    rcases c.step_override hne w addr (some .online) with
      ⟨hdown, -⟩ | ⟨current, done, hdone, ht, hk⟩
    · rw [haccepts.1] at hdown
      cases hdown
    · rw [ht]
      exact hdone.one_lt_length_onlineIn (hk.2 ⟨haccepts, hrow⟩) hother ho

theorem length_onlineIn_step (hne : c.writerGroup ≠ c.readerGroup) {w : Watched}
    (hone : ((table w).onlineIn c.writerGroup).length ≤ 1) {e : Event} (h : ¬ c.Clashes w e) :
    ((table (c.step w e)).onlineIn c.writerGroup).length ≤ 1 := by
  cases e with
  | surroundings cluster isDown writesLeft => exact hone
  | pass seeds blacklist =>
    have hafter := @Reconciler.length_onlineIn_stateAfter_reconcile _ (reconciler c.monitor) table
      (c.request seeds blacklist) tabled_admin spares_nodes hne w
    exact hafter.trans (max_le le_rfl hone)
  | override addr status =>
    rcases c.step_override hne w addr status with ⟨-, ht⟩ | ⟨current, done, hdone, ht, hk⟩
    · rw [ht]
      exact hone
    · rw [ht]
      apply hdone.length_onlineIn_le_one hone
      rintro ⟨hstatus, hmem, hother⟩
      exact h ⟨hstatus, (hk.1 hmem).1, (hk.1 hmem).2, hother⟩

/-! ## Whole runs -/

theorem length_onlineIn_run (hne : c.writerGroup ≠ c.readerGroup) {w : Watched}
    (hone : ((table w).onlineIn c.writerGroup).length ≤ 1) {events : List Event}
    (hquiet : ∀ before e, before ++ [e] <+: events → ¬ c.Clashes (c.run before w) e) :
    ((table (c.run events w)).onlineIn c.writerGroup).length ≤ 1 := by
  induction events generalizing w with
  | nil => exact hone
  | cons e events ih =>
    apply ih (c.length_onlineIn_step hne hone (hquiet [] e (by simp)))
    intro before e' hpre
    exact hquiet (e :: before) e' ((List.prefix_cons_inj e).2 hpre)

/-- What a run publishes are rows that one of its events has left. -/
theorem mem_published_run {w : Watched} {events : List Event} {t : BackendSet}
    (ht : t ∈ (c.run events w).published) :
    t ∈ w.published ∨ ∃ before, before <+: events ∧ t = table (c.run before w) := by
  induction events generalizing w with
  | nil => exact .inl ht
  | cons e events ih =>
    rcases ih ht with hstep | ⟨before, hpre, rfl⟩
    · rcases c.published_step w e with hp | hp
      · rw [hp] at hstep
        exact .inl hstep
      · rw [hp, List.mem_append, List.mem_singleton] at hstep
        rcases hstep with hold | rfl
        · exact .inl hold
        · exact .inr ⟨[e], by simp, rfl⟩
    · exact .inr ⟨e :: before, (List.prefix_cons_inj e).2 hpre, rfl⟩

theorem published_subset_run (w : Watched) (events : List Event) :
    w.published ⊆ (c.run events w).published := by
  induction events generalizing w with
  | nil => exact List.Subset.refl _
  | cons e events ih =>
    have hstep : w.published ⊆ (c.step w e).published := by
      rcases c.published_step w e with hp | hp <;> rw [hp]
      · exact List.Subset.refl _
      · exact List.subset_append_left _ _
    exact List.Subset.trans hstep (ih (c.step w e))

/-- From a single online writer, a run keeps a single one throughout exactly when no
override of it clashes. Without a clash every reload publishes at most one online writer,
and a clashing override that succeeds publishes two. -/
theorem single_writer_throughout_iff (hne : c.writerGroup ≠ c.readerGroup) (cluster : Cluster)
    {store : Store} (hone : (store.backends.onlineIn c.writerGroup).length ≤ 1)
    (events : List Event) :
    ((∀ before, before <+: events →
        ((table (c.run before ⟨cluster, store, []⟩)).onlineIn c.writerGroup).length ≤ 1) ↔
      ∀ before e, before ++ [e] <+: events → ¬ c.Clashes (c.run before ⟨cluster, store, []⟩) e) ∧
    ((∀ before e, before ++ [e] <+: events → ¬ c.Clashes (c.run before ⟨cluster, store, []⟩) e) →
      ∀ t ∈ (c.run events ⟨cluster, store, []⟩).published,
        (t.onlineIn c.writerGroup).length ≤ 1) ∧
    (∀ before addr status n after, before ++ [.override addr status] <+: events →
      c.Clashes (c.run before ⟨cluster, store, []⟩) (.override addr status) →
      (reconciler c.monitor).setOverride [c.writerGroup, c.readerGroup] addr status
        (c.run before ⟨cluster, store, []⟩) = .ok n after →
      ∃ t ∈ (c.run events ⟨cluster, store, []⟩).published,
        1 < (t.onlineIn c.writerGroup).length) := by
  have hquiet : (∀ before e, before ++ [e] <+: events →
        ¬ c.Clashes (c.run before ⟨cluster, store, []⟩) e) →
      ∀ before, before <+: events →
        ((table (c.run before ⟨cluster, store, []⟩)).onlineIn c.writerGroup).length ≤ 1 := by
    intro h before hpre
    apply c.length_onlineIn_run (w := ⟨cluster, store, []⟩) hne hone
    intro earlier e he
    exact h earlier e (he.trans hpre)
  refine ⟨⟨?_, hquiet⟩, ?_, ?_⟩
  · intro h before e hpre hclash
    have htwo := c.one_lt_length_onlineIn_step hne hclash
    have hafter := h (before ++ [e]) hpre
    rw [run_append] at hafter
    exact absurd htwo (Nat.not_lt.2 hafter)
  · intro h t ht
    rcases c.mem_published_run ht with hstart | ⟨before, hpre, rfl⟩
    · cases hstart
    · exact hquiet h before hpre
  · intro before addr status n after hpre hclash hok
    have hafter : c.run (before ++ [.override addr status]) ⟨cluster, store, []⟩ = after := by
      rw [run_append]
      exact stateAfter_of_ok hok
    obtain ⟨rest, hrest⟩ := hpre
    refine ⟨table after, ?_, ?_⟩
    · rw [← hrest, run_append, hafter]
      apply c.published_subset_run after rest
      rw [published_of_setOverride c.monitor hok]
      simp
    · have htwo := c.one_lt_length_onlineIn_step hne hclash
      rw [run_append] at hafter
      rw [← hafter]
      exact htwo

end Setting

def failedOver : Store where
  backends := Table.ofList [Backend.new 10 ⟨"db1", 3306⟩ .writer,
    Backend.new 10 ⟨"db2", 3306⟩ .writer .offlineHard]

def usualSetting : Setting := { writerGroup := 10, readerGroup := 11 }

/-- One override to `ONLINE` makes the router load two online writers. -/
theorem two_writers_published_of_override :
    (failedOver.backends.onlineIn usualSetting.writerGroup).length ≤ 1 ∧
    ¬ ∀ t ∈ (usualSetting.run [.override ⟨"db2", 3306⟩ (some .online)]
        ⟨Table.empty, failedOver, []⟩).published,
      (t.onlineIn usualSetting.writerGroup).length ≤ 1 := by
  refine ⟨by decide, ?_⟩
  have hpublished : (usualSetting.run [.override ⟨"db2", 3306⟩ (some .online)]
      ⟨Table.empty, failedOver, []⟩).published.map
        (fun t => (t.onlineIn usualSetting.writerGroup).length) = [2] := by cbv
  intro h
  obtain ⟨t, ht, htwo⟩ := List.mem_map.1 (hpublished ▸ List.mem_singleton_self 2)
  have hone := h t ht
  rw [htwo] at hone
  exact absurd hone (by decide)

/-- The failed node comes back to the router before it comes back to the cluster. -/
def hastyRun : List Event :=
  [.surroundings (Cluster.ofNodes [PlanContext.syncedNode "db1"]) false (some 4),
    .pass [⟨"db1", 3306⟩] {}, .override ⟨"db2", 3306⟩ (some .online)]

theorem single_writer_throughout_iff_of_hastyRun :
    usualSetting.writerGroup ≠ usualSetting.readerGroup ∧
    (failedOver.backends.onlineIn usualSetting.writerGroup).length ≤ 1 ∧
    ∃ t ∈ (usualSetting.run hastyRun ⟨Table.empty, failedOver, []⟩).published,
      1 < (t.onlineIn usualSetting.writerGroup).length := by
  have hne : usualSetting.writerGroup ≠ usualSetting.readerGroup := by decide
  have hone : (failedOver.backends.onlineIn usualSetting.writerGroup).length ≤ 1 := by decide
  obtain ⟨-, -, hclashing⟩ :=
    usualSetting.single_writer_throughout_iff hne Table.empty hone hastyRun
  have hleft : (usualSetting.run (hastyRun.take 2)
      ⟨Table.empty, failedOver, []⟩).store.writesLeft = some 3 := by cbv
  have hclash : usualSetting.Clashes (usualSetting.run (hastyRun.take 2)
      ⟨Table.empty, failedOver, []⟩) (.override ⟨"db2", 3306⟩ (some .online)) := by
    refine ⟨rfl, ⟨by cbv, by rw [hleft]; decide⟩,
      ⟨Backend.new 10 ⟨"db2", 3306⟩ .writer .offlineHard, by cbv⟩,
      ⟨"db1", 3306⟩, by decide, Backend.new 10 ⟨"db1", 3306⟩ .writer, by cbv, rfl⟩
  have hok : result? ((reconciler usualSetting.monitor).setOverride
      [usualSetting.writerGroup, usualSetting.readerGroup] ⟨"db2", 3306⟩ (some .online))
      (usualSetting.run (hastyRun.take 2) ⟨Table.empty, failedOver, []⟩) = some 1 := by cbv
  obtain ⟨w, hrun⟩ := exists_of_result? hok
  exact ⟨hne, hone, hclashing _ _ _ 1 w List.prefix_rfl hclash hrun⟩

end Watched

end SingleWriter
