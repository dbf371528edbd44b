import SingleWriter.Proofs.Overrides
import SingleWriter.Proofs.PartialPasses
import SingleWriter.Proofs.Targets

/-!
# Runs beside a pinned node

A node is held out when its rows in the two hostgroups are pinned and removed, and it has
such a row. No plan elects a node that is held out, and every plan has its rows as they
were, so that no pass writes one, at whatever write it stops. An override on another
address leaves them alone as well. What an operator has taken out therefore stays out
through any run, until the operator turns to its address again.
-/

set_option autoImplicit false

namespace SingleWriter

open SingleWriter.Action

/-! ## Plans -/

structure BackendSet.HeldOut (groups : List UInt32) (a : Addr) (s : BackendSet) : Prop where
  rows : ∀ {g b}, g ∈ groups → s.find? g a = some b → b.isPinned = true ∧ b.isRemoved = true
  some_row : ∃ g ∈ groups, ∃ b, s.find? g a = some b

namespace BackendSet.HeldOut

variable {groups : List UInt32} {a : Addr} {s t : BackendSet}

theorem isPinned (h : s.HeldOut groups a) : s.isPinned a = true := by
  obtain ⟨g, hg, b, hb⟩ := h.some_row
  exact isPinned_eq_true_iff.2 ⟨g, b, hb, (h.rows hg hb).1⟩

theorem congr (h : s.HeldOut groups a) (hrows : ∀ g ∈ groups, t.find? g a = s.find? g a) :
    t.HeldOut groups a where
  rows := by
    intro g b hg hb
    rw [hrows g hg] at hb
    exact h.rows hg hb
  some_row := by
    obtain ⟨g, hg, b, hb⟩ := h.some_row
    exact ⟨g, hg, b, by rw [hrows g hg, hb]⟩

end BackendSet.HeldOut

namespace PlanContext

variable (ctx : PlanContext) {current : BackendSet} {a : Addr} {b : Backend}

theorem rest_of_removed (hp : b.isPinned = true) (hr : b.isRemoved = true) : ctx.rest b = b := by
  rw [rest, restingStatus, hp, Bool.true_or, if_pos rfl, ← Backend.isRemoved_iff.1 hr]
  rfl

theorem followHealth_of_held (hp : b.isPinned = true) (hr : b.isRemoved = true) :
    ctx.followHealth b = b := by
  rw [ctx.followHealth_of_pinned hp, ← Backend.isRemoved_iff.1 hr]
  rfl

theorem promotedRow_of_pinned (hp : b.isPinned = true) : promotedRow b = b := by
  simp [promotedRow, hp]

variable (h : current.HeldOut [ctx.writerGroup, ctx.readerGroup] a)

include h

theorem writer_ne_of_heldOut (hne : ctx.writerGroup ≠ ctx.readerGroup) :
    (ctx.plan current).writer ≠ some a := by
  intro hw
  have hfree : ∀ b, current.find? ctx.writerGroup a = some b → b.isPinned ≠ false := by
    intro b hb hp
    rw [(h.rows (by simp) hb).1] at hp
    cases hp
  rcases ctx.elect_cases hne hw with ⟨b, hb, hs, -⟩ | ⟨b, hb, hr, -⟩ | ⟨-, hp, -⟩
  · exact hfree b hb (ctx.staysOnline_iff.1 hs).1
  · exact hfree b hb (ctx.isRecovering_iff.1 hr).1
  · rw [h.isPinned] at hp
    cases hp

theorem not_mem_recovering_of_heldOut : a ∉ ctx.recovering current := by
  intro hmem
  obtain ⟨b, hb, hr⟩ := ctx.mem_recovering.1 hmem
  obtain ⟨hp, -⟩ := ctx.isRecovering_iff.1 hr
  rw [(h.rows (by simp) hb).1] at hp
  cases hp

/-- Neither the node's health nor an empty hostgroup brings its reader row back, and none is
filled in. -/
theorem find?_filled_of_heldOut (hne : ctx.writerGroup ≠ ctx.readerGroup) :
    (ctx.filled (ctx.elect current).1 (ctx.plan current).writer).find? ctx.readerGroup a =
      current.find? ctx.readerGroup a := by
  have hw := ctx.writer_ne_of_heldOut h hne
  have hpinned : (ctx.convergeReaders (ctx.elect current).1 (ctx.plan current).writer).isPinned a =
      true := by
    rw [((ctx.reshaped_elect current).trans (ctx.reshaped_convergeReaders _ _)).isPinned_eq]
    exact h.isPinned
  rw [filled, ctx.find?_fillReaders hne, if_neg (by simp [lacksReader, hpinned]),
    ctx.find?_convergeReaders_of_ne hw, ctx.find?_elect_reader hne,
    if_neg fun hr => ctx.not_mem_recovering_of_heldOut h hr.1]
  cases hb : current.find? ctx.readerGroup a with
  | none => rfl
  | some b =>
    obtain ⟨hp, hr⟩ := h.rows (by simp) hb
    rw [Option.map_some, ctx.followHealth_of_held hp hr]

/-- The plan has every row of a node that is held out as it was. -/
theorem find?_plan_of_heldOut (hne : ctx.writerGroup ≠ ctx.readerGroup) (g : UInt32) :
    (ctx.plan current).backends.find? g a = current.find? g a := by
  have hw := ctx.writer_ne_of_heldOut h hne
  by_cases hg : g = ctx.writerGroup
  · subst hg
    rw [ctx.find?_plan_of_ne hne hw]
    cases hb : current.find? ctx.writerGroup a with
    | none => rfl
    | some b =>
      obtain ⟨hp, hr⟩ := h.rows (by simp) hb
      rw [Option.map_some, ctx.rest_of_removed hp hr]
  · by_cases hg' : g = ctx.readerGroup
    · subst hg'
      rw [backends_plan, ctx.find?_served_of_ne hw, ctx.find?_filled_of_heldOut h hne]
      cases hb : current.find? ctx.readerGroup a with
      | none => rfl
      | some b =>
        rw [Option.map_some, promotedRow_of_pinned (h.rows (by simp) hb).1, ite_self]
    · exact ctx.find?_plan_other hne hg hg'

theorem addr_ne_of_mem_diff (hne : ctx.writerGroup ≠ ctx.readerGroup) {m : Mutation}
    (hm : m ∈ BackendSet.diff current (ctx.plan current).backends ctx.writerGroup) :
    m.key.addr ≠ a := by
  rintro rfl
  obtain ⟨target, ht, hm⟩ := BackendSet.mem_diff_iff.1 hm
  have hsame : current.get? m.key = some target :=
    (ctx.find?_plan_of_heldOut h hne m.key.hostgroup).symm.trans ht
  rw [hsame, BackendSet.writesFor_eq_nil_iff.2 (.inl rfl)] at hm
  cases hm

end PlanContext

/-! ## Stores -/

def Store.Call.addr? : Store.Call → Option Addr
  | .register k _ => some k.addr
  | .deregister k => some k.addr
  | .setStatus k _ => some k.addr
  | _ => none

namespace Store

structure Spared (a : Addr) (s t : Store) : Prop where
  rows : ∀ g, t.backends.find? g a = s.backends.find? g a
  journal : ∃ added, t.journal = s.journal ++ added ∧ ∀ call ∈ added, call.addr? ≠ some a

variable {a : Addr} {s t u : Store}

theorem spared_of_same (hrows : t.backends = s.backends) (hjournal : t.journal = s.journal) :
    Spared a s t where
  rows := by
    intro g
    rw [hrows]
  journal := ⟨[], by simp [hjournal], by simp⟩

theorem spared_refl (a : Addr) (s : Store) : Spared a s s := spared_of_same rfl rfl

theorem Spared.trans (hst : Spared a s t) (htu : Spared a t u) : Spared a s u where
  rows := by
    intro g
    rw [htu.rows, hst.rows]
  journal := by
    obtain ⟨first, ht, hfirst⟩ := hst.journal
    obtain ⟨second, hu, hsecond⟩ := htu.journal
    refine ⟨first ++ second, by rw [hu, ht, List.append_assoc], ?_⟩
    intro call hcall
    rcases List.mem_append.1 hcall with hcall | hcall
    · exact hfirst call hcall
    · exact hsecond call hcall

theorem addr?_call (m : Mutation) : m.call.addr? = some m.key.addr := by
  cases m <;> rfl

theorem spared_perform {ms : List Mutation} (h : ∀ m ∈ ms, m.key.addr ≠ a) (s : Store) :
    Spared a s (s.perform ms) where
  rows := by
    intro g
    have hnone : ms.filter (·.key = ⟨g, a⟩) = [] := by
      rw [List.filter_eq_nil_iff]
      intro m hm hkey
      have hk : m.key = ⟨g, a⟩ := by simpa using hkey
      exact h m hm (by rw [hk])
    rw [BackendSet.find?, perform, BackendSet.get?_written, hnone]
    rfl
  journal := by
    refine ⟨ms.map Mutation.call, rfl, ?_⟩
    intro call hcall
    obtain ⟨m, hm, rfl⟩ := List.mem_map.1 hcall
    rw [addr?_call]
    exact fun heq => h m hm (Option.some.inj heq)

theorem spared_assign (vars : List (String × String)) (s : Store) :
    Spared a s (s.assign vars) where
  rows := by
    intro g
    rw [backends_assign]
  journal := by
    refine ⟨_, journal_assign vars s, ?_⟩
    intro call hcall
    obtain ⟨v, -, rfl⟩ := List.mem_map.1 hcall
    simp [Call.addr?]

theorem spared_reloaded (s : Store) : Spared a s (s.record .reload) where
  rows := fun _ => rfl
  journal := ⟨[.reload], rfl, by simp [Call.addr?]⟩

theorem moves_register {b : Backend} (hb : b.addr ≠ a) : Moves (Spared a) (register b) := by
  intro s
  rcases register_cases b s with hok | ⟨e, herror⟩
  · rw [stateAfter_of_ok hok]
    apply spared_perform
    intro m hm
    rw [List.mem_singleton.1 hm]
    exact hb
  · rw [stateAfter_of_error herror]
    exact spared_refl a s

theorem moves_reload : Moves (Spared a) reload := by
  intro s
  rcases reload_cases s with hok | herror
  · rw [stateAfter_of_ok hok]
    exact spared_reloaded s
  · rw [stateAfter_of_error herror]
    exact spared_refl a s

end Store

/-! ## One event -/

namespace Deployment

open Store (Spared)

variable {writerGroup readerGroup : UInt32} {a : Addr} {d d' : Deployment}

theorem heldOut_of_load (hne : writerGroup ≠ readerGroup) {monitor : Option Credentials}
    {current : BackendSet}
    (hload : (reconciler monitor).load [writerGroup, readerGroup] d = .ok current d')
    (h : d.store.backends.HeldOut [writerGroup, readerGroup] a) :
    current.HeldOut [writerGroup, readerGroup] a := by
  have hgroups : [writerGroup, readerGroup].Nodup := by simp [hne]
  apply h.congr
  intro g hg
  have hcurrent := Reconciler.get?_of_load tabled_memoryAdmin hgroups hload ⟨g, a⟩
  rw [if_pos hg] at hcurrent
  exact hcurrent

/-- A pass leaves a node that is held out alone, wherever it ends, and does not report it. -/
theorem spared_reconcile (monitor : Option Credentials) (req : PassRequest)
    (hne : req.writerGroup ≠ req.readerGroup)
    (h : d.store.backends.HeldOut [req.writerGroup, req.readerGroup] a) :
    Spared a d.store (stateAfter ((reconciler monitor).reconcile req) d).store ∧
    ∀ report d', (reconciler monitor).reconcile req d = .ok report d' → report.writer ≠ some a := by
  rcases reconcile_cases monitor hne d with ⟨e, d', herror, hstore, -⟩ |
    ⟨health, d₁, current, -, hstore, hload, hend⟩
  · constructor
    · rw [stateAfter_of_error herror, hstore]
      exact Store.spared_refl a d.store
    · intro report d'' hok
      rw [herror] at hok
      cases hok
  · have hheld := heldOut_of_load hne hload (hstore ▸ h)
    have hwrites : ∀ ms, ms <+: req.writes health current → Spared a d.store
        (((d.store.assign (reconciler monitor).monitorVariables).perform ms).record .reload) := by
      intro ms hms
      have hothers : ∀ m ∈ ms, m.key.addr ≠ a := fun m hm =>
        (req.context health).addr_ne_of_mem_diff hheld hne (hms.subset hm)
      exact ((Store.spared_assign _ _).trans (Store.spared_perform hothers _)).trans
        (Store.spared_reloaded _)
    rcases hend with hok | ⟨k, -, -, herror⟩
    · constructor
      · rw [stateAfter_of_ok hok]
        exact hwrites _ List.prefix_rfl
      · intro report d'' hok'
        rw [hok] at hok'
        cases hok'
        exact (req.context health).writer_ne_of_heldOut hheld hne
    · constructor
      · rw [stateAfter_of_error herror]
        exact hwrites _ (List.take_prefix k _)
      · intro report d'' hok
        rw [herror] at hok
        cases hok

/-- An override on another address, in whatever hostgroups, leaves the node alone. -/
theorem moves_setOverride (monitor : Option Credentials) (groups : List UInt32) {addr : Addr}
    (h : addr ≠ a) (status : Option Status) :
    Moves (fun d d' => Spared a d.store d'.store)
      ((reconciler monitor).setOverride groups addr status) := by
  have htrans : ∀ ⦃d d' d'' : Deployment⦄, Spared a d.store d'.store →
      Spared a d'.store d''.store → Spared a d.store d''.store := fun _ _ _ => Store.Spared.trans
  have hkeep : ∀ {α : Type} {x : Action Deployment α}, Keeps store x →
      Moves (fun d d' => Spared a d.store d'.store) x := by
    intro α x hx
    refine hx.moves ?_
    intro s t hst
    rw [hst]
    exact Store.spared_refl a s.store
  have hreload : Moves (fun d d' => Spared a d.store d'.store) (reconciler monitor).admin.reload :=
    Store.moves_reload.within fun _ _ => rfl
  unfold Reconciler.setOverride
  refine Moves.bind htrans (hkeep (Reconciler.keeps_load keeps_store_backends groups)) ?_
  intro current
  have hregister : Moves (fun d d' => Spared a d.store d'.store)
      (each (reconciler monitor).admin.register
        ((current.rows.filter (·.addr = addr)).map (Reconciler.overridden status))) := by
    refine Moves.each htrans (fun d => Store.spared_refl a d.store) ?_
    intro b hb
    obtain ⟨old, hold, rfl⟩ := List.mem_map.1 hb
    have haddr : old.addr = addr := by simpa using (List.mem_filter.1 hold).2
    have hone : Moves (Spared a) (Store.register (Reconciler.overridden status old)) :=
      Store.moves_register fun hat => h (haddr.symm.trans hat)
    exact hone.within fun _ _ => rfl
  refine Moves.bind htrans hregister fun _ => ?_
  have hend := Moves.bind htrans hreload fun _ =>
    hkeep (keeps_pure (current.rows.filter (·.addr = addr)).length)
  split
  · exact Moves.bind htrans (hkeep (keeps_throw _)) fun _ => hend
  · exact hend

inductive Event where
  /-- The members and the store's willingness change. -/
  | surroundings (cluster : Cluster) (isDown : Bool) (writesLeft : Option Nat)
  | pass (monitor : Option Credentials) (seeds : List Addr) (blacklist : Blacklist)
  | override (groups : List UInt32) (addr : Addr) (status : Option Status)

/-- The operator does not turn to the address. -/
def Event.Passes (a : Addr) : Event → Prop
  | .override _ addr _ => addr ≠ a
  | _ => True

def step (writerGroup readerGroup : UInt32) (d : Deployment) : Event → Deployment
  | .surroundings cluster isDown writesLeft =>
    { d with cluster, store := { d.store with isDown, writesLeft } }
  | .pass monitor seeds blacklist =>
    stateAfter ((reconciler monitor).reconcile ⟨writerGroup, readerGroup, seeds, blacklist⟩) d
  | .override groups addr status =>
    stateAfter ((reconciler none).setOverride groups addr status) d

theorem spared_step (hne : writerGroup ≠ readerGroup)
    (h : d.store.backends.HeldOut [writerGroup, readerGroup] a) {e : Event} (he : e.Passes a) :
    Spared a d.store (step writerGroup readerGroup d e).store := by
  cases e with
  | surroundings cluster isDown writesLeft => exact Store.spared_of_same rfl rfl
  | pass monitor seeds blacklist =>
    exact (spared_reconcile monitor ⟨writerGroup, readerGroup, seeds, blacklist⟩ hne h).1
  | override groups addr status => exact moves_setOverride none groups he status d

/-! ## Whole runs -/

def run (writerGroup readerGroup : UInt32) : List Event → Deployment → Deployment
  | [], d => d
  | e :: events, d => run writerGroup readerGroup events (step writerGroup readerGroup d e)

theorem spared_run (hne : writerGroup ≠ readerGroup)
    (h : d.store.backends.HeldOut [writerGroup, readerGroup] a) {events : List Event}
    (hevents : ∀ e ∈ events, e.Passes a) :
    Spared a d.store (run writerGroup readerGroup events d).store := by
  induction events generalizing d with
  | nil => exact Store.spared_refl a d.store
  | cons e events ih =>
    have hstep := spared_step hne h (hevents e (by simp))
    have hheld := h.congr fun g _ => hstep.rows g
    exact hstep.trans (ih hheld fun e' he' => hevents e' (by simp [he']))

/-- The command takes a node out. -/
theorem heldOut_of_setOverride (monitor : Option Credentials) {groups : List UInt32}
    (hg : groups.Nodup) {n : Nat}
    (h : (reconciler monitor).setOverride groups a (some .offlineHard) d = .ok n d') :
    d'.store.backends.HeldOut groups a := by
  obtain ⟨hrows, g, hin, b, hb⟩ := Reconciler.find?_of_setOverride tabled_memoryAdmin hg h
  constructor
  · intro g c hgroup hc
    rw [hrows g hgroup] at hc
    obtain ⟨old, -, rfl⟩ := Option.map_eq_some_iff.1 hc
    exact ⟨rfl, rfl⟩
  · exact ⟨g, hin, Reconciler.overridden (some .offlineHard) b, by rw [hrows g hin, hb]; rfl⟩

/-- Once the operator has taken a node out, it stays out until the operator turns to its
address again: through any passes, failed ones among them, any changes of the members and
of the store, and overrides on other addresses. Its rows stand as they did, `OFFLINE_HARD`
and with the override, no call is made for one of them, and no pass reports it as writer. -/
theorem pinned_node_stays_out (monitor : Option Credentials) (hne : writerGroup ≠ readerGroup)
    {n : Nat} (hpin : (reconciler monitor).setOverride [writerGroup, readerGroup] a
      (some .offlineHard) d = .ok n d') {events : List Event}
    (hevents : ∀ e ∈ events, e.Passes a) :
    ∀ before, before <+: events →
      (∀ g, (run writerGroup readerGroup before d').store.backends.find? g a =
        d'.store.backends.find? g a) ∧
      (∀ g ∈ [writerGroup, readerGroup], ∀ b,
        (run writerGroup readerGroup before d').store.backends.find? g a = some b →
          b.status = .offlineHard ∧ b.annotation.override = some .offlineHard) ∧
      (∃ added, (run writerGroup readerGroup before d').store.journal =
        d'.store.journal ++ added ∧ ∀ call ∈ added, call.addr? ≠ some a) ∧
      ∀ monitor' seeds blacklist report d'', (reconciler monitor').reconcile
        ⟨writerGroup, readerGroup, seeds, blacklist⟩ (run writerGroup readerGroup before d') =
          .ok report d'' → report.writer ≠ some a := by
  intro before hpre
  have hheld := heldOut_of_setOverride monitor (by simp [hne]) hpin
  have hspared := spared_run hne hheld fun e he => hevents e (hpre.subset he)
  have hheld' := hheld.congr fun g _ => hspared.rows g
  refine ⟨hspared.rows, ?_, hspared.journal, ?_⟩
  · intro g hg b hb
    obtain ⟨hp, hr⟩ := hheld'.rows hg hb
    exact ⟨Backend.isRemoved_iff.1 hr, by simpa [Backend.isPinned] using hp⟩
  · intro monitor' seeds blacklist report d'' hok
    exact (spared_reconcile monitor' ⟨writerGroup, readerGroup, seeds, blacklist⟩ hne
      hheld').2 report d'' hok

def managed : Deployment where
  cluster := Cluster.ofNodes [PlanContext.syncedNode "db1", PlanContext.syncedNode "db2"]
  store := { backends := Table.ofList [Backend.new 10 ⟨"db1", 3306⟩ .writer,
    Backend.new 11 ⟨"db1", 3306⟩ .reader, Backend.new 11 ⟨"db2", 3306⟩ .reader] }
  network := Sql.Network.offline []

/-- The other member takes over and is lost, and the pass that takes it out stops between
its two writes. -/
def maintenance : List Event :=
  [.pass none [⟨"db2", 3306⟩] {},
    .surroundings (Cluster.ofNodes [PlanContext.syncedNode "db1"]) false (some 1),
    .pass none [⟨"db1", 3306⟩] {}, .override [11] ⟨"db2", 3306⟩ none]

theorem pinned_node_stays_out_of_maintenance :
    (10 : UInt32) ≠ 11 ∧ (∀ e ∈ maintenance, e.Passes ⟨"db1", 3306⟩) ∧
    ∃ d', (reconciler none).setOverride [10, 11] ⟨"db1", 3306⟩ (some .offlineHard) managed =
        .ok 2 d' ∧
      ((run 10 11 (maintenance.take 1) d').store.backends.onlineIn 10).map Backend.addr =
        [⟨"db2", 3306⟩] ∧
      (run 10 11 maintenance d').store.backends.find? 10 ⟨"db1", 3306⟩ =
        d'.store.backends.find? 10 ⟨"db1", 3306⟩ ∧
      ∀ b, (run 10 11 maintenance d').store.backends.find? 11 ⟨"db1", 3306⟩ = some b →
        b.status = .offlineHard := by
  have hne : (10 : UInt32) ≠ 11 := by decide
  have hevents : ∀ e ∈ maintenance, e.Passes ⟨"db1", 3306⟩ := by
    simp [maintenance, Event.Passes]
  have hok : result? ((reconciler none).setOverride [10, 11] ⟨"db1", 3306⟩ (some .offlineHard))
      managed = some 2 := by cbv
  have hwriter : ((run 10 11 (maintenance.take 1) (stateAfter ((reconciler none).setOverride
      [10, 11] ⟨"db1", 3306⟩ (some .offlineHard)) managed)).store.backends.onlineIn 10).map
        Backend.addr = [⟨"db2", 3306⟩] := by cbv
  obtain ⟨d', hpin⟩ := exists_of_result? hok
  obtain ⟨hrows, hout, -, -⟩ :=
    pinned_node_stays_out none hne hpin hevents maintenance List.prefix_rfl
  rw [stateAfter_of_ok hpin] at hwriter
  exact ⟨hne, hevents, d', hpin, hwriter, hrows 10, fun b hb => (hout 11 (by simp) b hb).1⟩

end Deployment

end SingleWriter
