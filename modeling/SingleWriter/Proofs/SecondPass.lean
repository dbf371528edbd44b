import SingleWriter.Proofs.Passes
import SingleWriter.Proofs.Steady

/-!
# Second passes

A pass that succeeds leaves nothing to do for the same pass. While no member runs out of
answers, the survey only reads the cluster, so that a second one finds the same health. The
rows that are loaded then are those of the first plan without the new row that it removed
at once, in another order; they are steady, and are planned to themselves.
-/

set_option autoImplicit false

namespace SingleWriter

variable {ε δ σ τ υ α β : Type}

/-! ## Actions that only read -/

namespace Action

def Reads (view : σ → τ) (v : τ) (x : EStateM ε σ α) : Prop :=
  (∃ a, ∀ s, view s = v → x s = .ok a s) ∨ (∃ e, ∀ s, view s = v → x s = .error e s)

variable {view : σ → τ} {v : τ} {x : EStateM ε σ α}

theorem reads_pure (a : α) : Reads view v (pure a : EStateM ε σ α) := .inl ⟨a, fun _ _ => rfl⟩

theorem reads_throw (e : ε) : Reads view v (throw e : EStateM ε σ α) := .inr ⟨e, fun _ _ => rfl⟩

theorem Reads.bind {f : α → EStateM ε σ β} (hx : Reads view v x) (hf : ∀ a, Reads view v (f a)) :
    Reads view v (x >>= f) := by
  rcases hx with ⟨a, ha⟩ | ⟨e, he⟩
  · rcases hf a with ⟨b, hb⟩ | ⟨e, he⟩
    · exact .inl ⟨b, fun s hs => (bind_of_ok (ha s hs)).trans (hb s hs)⟩
    · exact .inr ⟨e, fun s hs => (bind_of_ok (ha s hs)).trans (he s hs)⟩
  · exact .inr ⟨e, fun s hs => bind_eq_error.2 (.inl (he s hs))⟩

theorem Reads.mapError {d : ε → δ} (hx : Reads view v x) : Reads view v (mapError d x) := by
  rcases hx with ⟨a, ha⟩ | ⟨e, he⟩
  · exact .inl ⟨a, fun s hs => by rw [Action.mapError, ha s hs]⟩
  · exact .inr ⟨d e, fun s hs => by rw [Action.mapError, he s hs]⟩

theorem Reads.outcome (hx : Reads view v x) :
    Reads view v (outcome x : EStateM δ σ (Except ε α)) := by
  rcases hx with ⟨a, ha⟩ | ⟨e, he⟩
  · exact .inl ⟨.ok a, fun s hs => by rw [Action.outcome, ha s hs]⟩
  · exact .inl ⟨.error e, fun s hs => by rw [Action.outcome, he s hs]⟩

theorem Reads.within {part : υ → σ} {replace : σ → υ → υ} (hx : Reads view v x)
    (h : ∀ u, replace (part u) u = u) :
    Reads (fun u => view (part u)) v (within part replace x) := by
  rcases hx with ⟨a, ha⟩ | ⟨e, he⟩
  · exact .inl ⟨a, fun u hu => within_eq_ok.2 ⟨part u, ha (part u) hu, h u⟩⟩
  · exact .inr ⟨e, fun u hu => within_eq_error.2 ⟨part u, he (part u) hu, h u⟩⟩

/-- What was read once is read again, in whatever state shows the same. -/
theorem Reads.again (hx : Reads view v x) {s t u : σ} {a : α} (h : x s = .ok a u)
    (hs : view s = v) (ht : view t = v) : u = s ∧ x t = .ok a t := by
  rcases hx with ⟨b, hb⟩ | ⟨e, he⟩
  · rw [hb s hs] at h
    cases h
    exact ⟨rfl, hb t ht⟩
  · rw [he s hs] at h
    cases h

end Action

open SingleWriter.Action

/-! ## The survey -/

structure NodeAccess.Reads (nodes : NodeAccess σ) (view : σ → τ) (v : τ) : Prop where
  fetch : ∀ a, Action.Reads view v (nodes.fetch a)
  peers : ∀ a, Action.Reads view v (nodes.peers a)

theorem NodeAccess.Reads.within {nodes : NodeAccess σ} {part : υ → σ} {replace : σ → υ → υ}
    {view : σ → τ} {v : τ} (hnodes : nodes.Reads view v) (h : ∀ u, replace (part u) u = u) :
    (nodes.within part replace).Reads (fun u => view (part u)) v where
  fetch a := (hnodes.fetch a).within h
  peers a := (hnodes.peers a).within h

namespace Discovery

variable {nodes : NodeAccess σ} {view : σ → τ} {v : τ}

theorem reads_fetch (h : nodes.Reads view v) (a : Addr) : Reads view v (fetch nodes a) :=
  (h.fetch a).mapError

theorem reads_peers (h : nodes.Reads view v) (a : Addr) : Reads view v (peers nodes a) :=
  (h.peers a).mapError

theorem reads_gather (h : nodes.Reads view v) (id : Uuid) (addrs : List Addr) (m : Membership) :
    Reads view v (gather nodes id addrs m) := by
  induction addrs generalizing m with
  | nil => exact reads_pure m
  | cons a rest ih => exact (reads_fetch h a).bind fun node => ih _

theorem reads_discover (h : nodes.Reads view v) (seed : Addr) :
    Reads view v (discover nodes seed) := by
  apply (reads_fetch h seed).bind
  intro node
  have hrest := fun m => (reads_peers h seed).bind fun reported =>
    reads_gather h node.stateId (reported.filter (·.host ≠ seed.host)) m
  split
  · exact (reads_throw _).bind fun _ => hrest _
  · exact hrest _

theorem reads_firstUseful (h : nodes.Reads view v) (last : PassError) (seeds : List Addr) :
    Reads view v (firstUseful nodes last seeds) := by
  induction seeds generalizing last with
  | nil => exact reads_throw last
  | cons seed rest ih =>
    rcases reads_discover h seed with ⟨found, hfound⟩ | ⟨e, he⟩
    · exact .inl ⟨found, fun s hs => by simp only [firstUseful, hfound s hs]⟩
    · have hstep : ∀ s, view s = v →
          firstUseful nodes last (seed :: rest) s = firstUseful nodes e rest s := by
        intro s hs
        simp only [firstUseful, he s hs]
      rcases ih e with ⟨found, hfound⟩ | ⟨d, hlast⟩
      · exact .inl ⟨found, fun s hs => (hstep s hs).trans (hfound s hs)⟩
      · exact .inr ⟨d, fun s hs => (hstep s hs).trans (hlast s hs)⟩

end Discovery

namespace Reconciler

variable {r : Reconciler σ} {view : σ → τ} {v : τ}

theorem reads_probe (h : r.nodes.Reads view v) (addrs : List Addr) :
    Reads view v (r.probe addrs) := by
  induction addrs with
  | nil => exact reads_pure []
  | cons a rest ih => exact (h.fetch a).outcome.bind fun _ => ih.bind fun _ => reads_pure _

theorem reads_survey (h : r.nodes.Reads view v) (seeds : List Addr) :
    Reads view v (r.survey seeds) := by
  apply (Discovery.reads_firstUseful h .clusterUnavailable seeds).bind
  intro members
  split
  · exact reads_throw _
  · apply (reads_probe h _).bind
    intro probes
    dsimp only
    split
    · exact (reads_throw _).bind fun _ => reads_pure _
    · exact reads_pure _

end Reconciler

namespace Cluster

/-- A cluster whose members do not run out of answers is only read. -/
theorem reads_access {c : Cluster} (h : ∀ m ∈ c.rows, m.answersLeft = none) :
    access.Reads id c where
  fetch a := by
    have hreach := reach_eq c a
    cases hm : c.reached a with
    | ok m =>
      rw [hm] at hreach
      refine .inl ⟨m.node, ?_⟩
      rintro s rfl
      refine (bind_of_ok hreach).trans ?_
      simp only [h m (Table.mem_of_get? (get?_of_reached hm))]
      rfl
    | error e =>
      rw [hm] at hreach
      refine .inr ⟨e, ?_⟩
      rintro s rfl
      exact bind_eq_error.2 (.inl hreach)
  peers a := by
    have hreach := reach_eq c a
    cases hm : c.reached a with
    | ok m =>
      rw [hm] at hreach
      refine .inl ⟨m.peers.getD c.addresses, ?_⟩
      rintro s rfl
      exact bind_of_ok hreach
    | error e =>
      rw [hm] at hreach
      refine .inr ⟨e, ?_⟩
      rintro s rfl
      exact bind_eq_error.2 (.inl hreach)

end Cluster

/-! ## The store -/

structure AdminStore.Serves (admin : AdminStore σ) (up : σ → Prop) : Prop where
  lists : ∀ {s}, up s → admin.Lists s
  setVariable : ∀ name value {s}, up s → ∃ t, admin.setVariable name value s = .ok () t ∧ up t
  reload : ∀ {s}, up s → ∃ t, admin.reload s = .ok () t
  of_reload : ∀ {s t}, admin.reload s = .ok () t → up t

theorem Store.serves_admin : Store.admin.Serves fun s => s.isDown = false where
  lists := lists_of_up
  setVariable name value s h := ⟨_, bind_of_ok (reachable_of_up h), h⟩
  reload h := ⟨_, bind_of_ok (reachable_of_up h)⟩
  of_reload {s t} h := by
    obtain ⟨_, u, hu, h⟩ := bind_eq_ok.1 h
    cases h
    unfold reachable at hu
    split at hu
    · cases hu
    · rename_i hup
      cases hu
      have hs : s.isDown = false := by simpa using hup
      exact hs

structure AdminStore.Spares (admin : AdminStore σ) (view : σ → τ) : Prop where
  register : ∀ b, Keeps view (admin.register b)
  deregister : ∀ b, Keeps view (admin.deregister b)
  setStatus : ∀ b status, Keeps view (admin.setStatus b status)
  setVariable : ∀ name value, Keeps view (admin.setVariable name value)
  reload : Keeps view admin.reload
  backends : ∀ g status, Keeps view (admin.backends g status)

namespace AdminStore

variable {admin : AdminStore σ} {part : υ → σ} {replace : σ → υ → υ}

theorem Serves.within {up : σ → Prop} (h : admin.Serves up) (hpart : ∀ s u, part (replace s u) = s)
    (hsame : ∀ u, replace (part u) u = u) :
    (admin.within part replace).Serves fun u => up (part u) where
  lists {u} hu := (h.lists hu).within (hsame u)
  setVariable name value u hu := by
    obtain ⟨s, hs, hup⟩ := h.setVariable name value hu
    exact ⟨replace s u, within_eq_ok.2 ⟨s, hs, rfl⟩, by rwa [hpart]⟩
  reload {u} hu := by
    obtain ⟨s, hs⟩ := h.reload hu
    exact ⟨replace s u, within_eq_ok.2 ⟨s, hs, rfl⟩⟩
  of_reload {u v} hv := by
    obtain ⟨s, hs, rfl⟩ := within_eq_ok.1 hv
    rw [hpart]
    exact h.of_reload hs

theorem spares_within {view : υ → τ} (h : ∀ s u, view (replace s u) = view u) :
    (admin.within part replace).Spares view where
  register _ := keeps_within h
  deregister _ := keeps_within h
  setStatus _ _ := keeps_within h
  setVariable _ _ := keeps_within h
  reload := keeps_within h
  backends _ _ := keeps_within h

end AdminStore

namespace Reconciler

variable {r : Reconciler σ} {up : σ → Prop} {view : σ → τ} {s t : σ}

theorem keeps_apply (h : r.admin.Spares view) (ms : List Mutation) : Keeps view (r.apply ms) := by
  apply Keeps.bind
  · exact Keeps.each (fun v : String × String => h.setVariable v.1 v.2) _
  · intro _
    apply Keeps.each
    intro m
    cases m with
    | register b => exact h.register b
    | deregister b => exact h.deregister b
    | setStatus b => exact h.setStatus b b.status

theorem commit_eq_ok {ms : List Mutation} (h : r.commit ms s = .ok () t) :
    ∃ u, r.apply ms s = .ok () u ∧ r.admin.reload u = .ok () t := by
  unfold commit at h
  cases hs : r.apply ms s with
  | ok _ u =>
    rw [hs] at h
    exact ⟨u, rfl, h⟩
  | error e u =>
    rw [hs] at h
    dsimp only at h
    split at h <;> cases h

theorem exists_each_setVariable (h : r.admin.Serves up) (vars : List (String × String))
    (hs : up s) :
    ∃ t, each (fun v => r.admin.setVariable v.1 v.2) vars s = .ok () t ∧ up t := by
  induction vars generalizing s with
  | nil => exact ⟨s, rfl, hs⟩
  | cons v vars ih =>
    obtain ⟨u, hu, hup⟩ := h.setVariable v.1 v.2 hs
    obtain ⟨t, ht, hup⟩ := ih hup
    exact ⟨t, (bind_of_ok hu).trans ht, hup⟩

/-- Without writes there is nothing that a store which is up can refuse. -/
theorem exists_commit_nil (h : r.admin.Serves up) (hs : up s) : ∃ t, r.commit [] s = .ok () t := by
  obtain ⟨u, hu, hup⟩ := exists_each_setVariable h r.monitorVariables hs
  obtain ⟨t, ht⟩ := h.reload hup
  have happly : r.apply [] s = .ok () u := bind_of_ok hu
  refine ⟨t, ?_⟩
  rw [commit, happly]
  exact ht

end Reconciler

/-! ## The second pass -/

theorem BackendSet.diff_self (s : BackendSet) (g : UInt32) : diff s s g = [] :=
  diff_eq_nil_iff.2 fun _ hb => .inl hb

/-- What is loaded after a pass is steady around its writer. -/
theorem PlanContext.steady_of_load (ctx : PlanContext) (hne : ctx.writerGroup ≠ ctx.readerGroup)
    (hd : ctx.health.Distinct) {current loaded : BackendSet} {rows : BackendSet}
    (hcurrent : ∀ k, current.get? k =
      if k.hostgroup ∈ [ctx.writerGroup, ctx.readerGroup] then rows.get? k else none)
    (hloaded : ∀ k, loaded.get? k =
      if k.hostgroup ∈ [ctx.writerGroup, ctx.readerGroup] then
        (BackendSet.written (BackendSet.diff current (ctx.plan current).backends ctx.writerGroup)
          rows).get? k
      else none) :
    ctx.Steady loaded (ctx.plan current).writer := by
  have hreshaped := ctx.reshaped_plan current
  apply Trims.steady (s := (ctx.plan current).backends) ?_ hne (ctx.steady_plan hne hd current)
  intro g a
  have hrow := hloaded ⟨g, a⟩
  by_cases hg : g ∈ [ctx.writerGroup, ctx.readerGroup]
  · have hold : current.get? ⟨g, a⟩ = rows.get? ⟨g, a⟩ := by rw [hcurrent, if_pos hg]
    have hend := BackendSet.get?_written_diff (k := ⟨g, a⟩) (g := ctx.writerGroup)
      (fun _ => hold.symm) fun _ _ ho ht => hreshaped.reworked ho ht
    rw [if_pos hg, hend] at hrow
    cases hp : (ctx.plan current).backends.get? ⟨g, a⟩ with
    | none =>
      left
      rw [hp] at hrow
      have hnone : current.get? ⟨g, a⟩ = none := by
        by_contra hc
        exact hreshaped.get?_ne_none hc hp
      rw [BackendSet.find?, hrow, ← hold, hnone, BackendSet.find?, hp]
    | some target =>
      rw [hp] at hrow
      dsimp only at hrow
      split at hrow
      · rename_i hlost
        -- A planned key is missing only where a new row was removed at once.
        obtain ⟨hreader, hwriter, hpin⟩ := ctx.new_removed_plan hne hd hlost.1 hp hlost.2
        exact .inr ⟨hreader, hwriter, hrow, target, hp, hlost.2, hpin⟩
      · left
        rw [BackendSet.find?, hrow, BackendSet.find?, hp]
  · left
    rw [if_neg hg] at hrow
    have hold : current.get? ⟨g, a⟩ = none := by rw [hcurrent, if_neg hg]
    rw [List.mem_pair, not_or] at hg
    rw [BackendSet.find?, hrow, ctx.find?_plan_other hne hg.1 hg.2, BackendSet.find?, hold]

namespace Reconciler

variable {r : Reconciler σ} {table : σ → BackendSet} {up : σ → Prop} {view : σ → τ}
  {req : PassRequest} {report : Report} {s t : σ}

/-- The writes of a pass lie outside what its survey sees. -/
theorem view_of_reconcile (hspares : r.admin.Spares view) (hnodes : r.nodes.Reads view (view s))
    (h : r.reconcile req s = .ok report t) : view t = view s := by
  obtain ⟨health, u, current, x, hsurvey, hload, hcommit, -, -⟩ := reconcile_eq_ok h
  obtain ⟨y, happly, hreload⟩ := commit_eq_ok hcommit
  obtain ⟨rfl, -⟩ := (reads_survey hnodes req.seeds).again hsurvey rfl rfl
  calc view t = view y := hspares.reload.ok hreload
    _ = view x := (keeps_apply hspares _).ok happly
    _ = view u := (keeps_load hspares.backends _).ok hload

/-- The same pass finds nothing to write after one that succeeded, and leaves the rows. -/
theorem reconcile_again (htable : r.admin.Tabled table) (hserves : r.admin.Serves up)
    (hspares : r.admin.Spares view) (hnodes : r.nodes.Reads view (view s))
    (hne : req.writerGroup ≠ req.readerGroup) (h : r.reconcile req s = .ok report t) :
    ∃ t', r.reconcile req t = .ok ⟨report.writer, []⟩ t' ∧ table t' = table t := by
  have hgroups : [req.writerGroup, req.readerGroup].Nodup := by simp [hne]
  obtain ⟨health, u, current, x, hsurvey, hload, hcommit, hwriter, hmutations⟩ := reconcile_eq_ok h
  obtain ⟨y, -, hreload⟩ := commit_eq_ok hcommit
  have hd : (req.context health).health.Distinct := distinct_of_survey hsurvey
  have hsurveys := reads_survey hnodes req.seeds
  obtain ⟨rfl, -⟩ := hsurveys.again hsurvey rfl rfl
  obtain ⟨-, hsurvey'⟩ := hsurveys.again hsurvey rfl (view_of_reconcile hspares hnodes h)
  obtain ⟨loaded, hload'⟩ := exists_load (hserves.lists (hserves.of_reload hreload))
    [req.writerGroup, req.readerGroup]
  have hrows : table x = table u := (keeps_load htable.backends _).ok hload
  have hwritten := table_of_commit htable hcommit
  have hsteady : (req.context health).Steady loaded report.writer := by
    rw [hwriter]
    refine (req.context health).steady_of_load hne hd (get?_of_load htable hgroups hload) ?_
    intro k
    rw [get?_of_load htable hgroups hload' k, hwritten, hmutations, hrows]
    rfl
  have hplan := hsteady.plan_eq hne hd
  obtain ⟨t', hcommit'⟩ := exists_commit_nil hserves (hserves.of_reload hreload)
  have hpass : r.reconcile req t = (do
      r.commit (BackendSet.diff loaded ((req.context health).plan loaded).backends req.writerGroup)
      return ⟨((req.context health).plan loaded).writer,
        BackendSet.diff loaded ((req.context health).plan loaded).backends req.writerGroup⟩
      : Action σ Report) t := (bind_of_ok hsurvey').trans (bind_of_ok hload')
  refine ⟨t', ?_, table_of_commit htable hcommit'⟩
  rw [hpass, hplan, BackendSet.diff_self]
  exact bind_of_ok hcommit'

end Reconciler

namespace Deployment

theorem serves_memoryAdmin : memoryAdmin.Serves fun d => d.store.isDown = false :=
  Store.serves_admin.within (fun _ _ => rfl) fun _ => rfl

theorem spares_memoryAdmin : memoryAdmin.Spares cluster :=
  AdminStore.spares_within fun _ _ => rfl

theorem reads_memoryNodes {d : Deployment} (h : ∀ m ∈ d.cluster.rows, m.answersLeft = none) :
    memoryNodes.Reads cluster d.cluster :=
  (Cluster.reads_access h).within fun _ => rfl

/-- Planning again from a plan gives the same rows in the same order and the same writer, with
nothing to write. After a pass that succeeds, while nothing changes and no member runs out of
answers, the same pass succeeds with the same writer, writes no row and leaves all of them. -/
theorem second_pass_idle (req : PassRequest) (hne : req.writerGroup ≠ req.readerGroup) :
    (∀ health : HealthMap, health.Distinct → ∀ current : BackendSet,
      (req.context health).plan ((req.context health).plan current).backends =
          (req.context health).plan current ∧
        BackendSet.diff ((req.context health).plan current).backends
          ((req.context health).plan ((req.context health).plan current).backends).backends
          req.writerGroup = []) ∧
    (∀ (monitor : Option Credentials) (d d' : Deployment) (report : Report),
      (∀ m ∈ d.cluster.rows, m.answersLeft = none) →
      (Reconciler.mk memoryNodes memoryAdmin monitor).reconcile req d = .ok report d' →
      ∃ d'', (Reconciler.mk memoryNodes memoryAdmin monitor).reconcile req d' =
          .ok ⟨report.writer, []⟩ d'' ∧
        d''.store.backends = d'.store.backends) := by
  constructor
  · intro health hd current
    have hplan := ((req.context health).steady_plan hne hd current).plan_eq hne hd
    refine ⟨hplan, ?_⟩
    rw [hplan]
    exact BackendSet.diff_self _ _
  · intro monitor d d' report hanswers hpass
    exact Reconciler.reconcile_again tabled_memoryAdmin serves_memoryAdmin spares_memoryAdmin
      (reads_memoryNodes hanswers) hne hpass

/-- The writer would read for want of other readers, and is retired once they are added: its
reader row is planned as new and removed. -/
def scaledOut : Deployment where
  cluster := Cluster.ofNodes [PlanContext.syncedNode "db1", PlanContext.syncedNode "db2",
    PlanContext.syncedNode "db3"]
  store := { backends := Table.ofList [Backend.new 10 ⟨"db1", 3306⟩ .writer] }
  network := Sql.Network.offline []

theorem second_pass_idle_of_scaledOut :
    degradedRequest.writerGroup ≠ degradedRequest.readerGroup ∧
    PlanContext.threeSynced.health.Distinct ∧
    BackendSet.diff
        ((degradedRequest.context PlanContext.threeSynced.health).plan
          PlanContext.splitBrain).backends
        ((degradedRequest.context PlanContext.threeSynced.health).plan
          ((degradedRequest.context PlanContext.threeSynced.health).plan
            PlanContext.splitBrain).backends).backends 10 = [] ∧
    (∀ m ∈ scaledOut.cluster.rows, m.answersLeft = none) ∧
    ∃ report d' d'', (Reconciler.mk memoryNodes memoryAdmin none).reconcile degradedRequest
        scaledOut = .ok report d' ∧ report.writer = some ⟨"db1", 3306⟩ ∧
      (Reconciler.mk memoryNodes memoryAdmin none).reconcile degradedRequest d' =
        .ok ⟨some ⟨"db1", 3306⟩, []⟩ d'' := by
  have hne : degradedRequest.writerGroup ≠ degradedRequest.readerGroup := by decide
  have hd : PlanContext.threeSynced.health.Distinct := by
    unfold HealthMap.Distinct
    decide
  have hanswers : ∀ m ∈ scaledOut.cluster.rows, m.answersLeft = none := by decide
  have hok : (result? ((Reconciler.mk memoryNodes memoryAdmin none).reconcile degradedRequest)
      scaledOut).map Report.writer = some (some ⟨"db1", 3306⟩) := by cbv
  obtain ⟨report, hreport, hdb1⟩ := Option.map_eq_some_iff.1 hok
  obtain ⟨d', hrun⟩ := exists_of_result? hreport
  obtain ⟨hplan, hpass⟩ := second_pass_idle degradedRequest hne
  obtain ⟨d'', hagain, -⟩ := hpass none scaledOut d' report hanswers hrun
  rw [hdb1] at hagain
  exact ⟨hne, hd, (hplan _ hd PlanContext.splitBrain).2, hanswers, report, d', d'', hrun, hdb1,
    hagain⟩

end Deployment

end SingleWriter
