import Mathlib
import SingleWriter.Proofs.Admin
import SingleWriter.Proofs.Answers
import SingleWriter.Proofs.Handover
import SingleWriter.Proofs.Findings
import SingleWriter.Deployment

/-!
# Passes

A pass only reads the nodes, so the rows it loads, plans from and writes to are those it
started from. When it succeeds, the rows in service are those of its plan, and each is at
a member that answered its probe as fit to serve.
-/

set_option autoImplicit false

namespace SingleWriter

open SingleWriter.Action

variable {σ τ υ : Type}

/-! ## Reading the nodes -/

structure NodeAccess.Spares (nodes : NodeAccess σ) (view : σ → τ) : Prop where
  fetch : ∀ a, Keeps view (nodes.fetch a)
  peers : ∀ a, Keeps view (nodes.peers a)

/-- Nodes in one part of a state spare what lies in another. -/
theorem NodeAccess.spares_within {nodes : NodeAccess σ} {part : υ → σ} {replace : σ → υ → υ}
    {view : υ → τ} (h : ∀ s u, view (replace s u) = view u) :
    (nodes.within part replace).Spares view where
  fetch _ := keeps_within h
  peers _ := keeps_within h

namespace Discovery

variable {nodes : NodeAccess σ} {view : σ → τ}

theorem keeps_fetch (h : nodes.Spares view) (a : Addr) : Keeps view (fetch nodes a) :=
  (h.fetch a).mapError

theorem keeps_peers (h : nodes.Spares view) (a : Addr) : Keeps view (peers nodes a) :=
  (h.peers a).mapError

theorem keeps_gather (h : nodes.Spares view) (id : Uuid) (addrs : List Addr) (m : Membership) :
    Keeps view (gather nodes id addrs m) := by
  induction addrs generalizing m with
  | nil => exact keeps_pure m
  | cons a rest ih => exact (keeps_fetch h a).bind fun node => ih _

theorem keeps_discover (h : nodes.Spares view) (seed : Addr) :
    Keeps view (discover nodes seed) := by
  apply (keeps_fetch h seed).bind
  intro node
  have hrest := fun m => (keeps_peers h seed).bind fun reported =>
    keeps_gather h node.stateId (reported.filter (·.host ≠ seed.host)) m
  split
  · exact (keeps_throw _).bind fun _ => hrest _
  · exact hrest _

theorem keeps_firstUseful (h : nodes.Spares view) (last : PassError) (seeds : List Addr) :
    Keeps view (firstUseful nodes last seeds) := by
  induction seeds generalizing last with
  | nil => exact keeps_throw last
  | cons seed rest ih =>
    have hseed := keeps_discover h seed
    constructor
    · intro s t m ht
      unfold firstUseful at ht
      cases hs : discover nodes seed s with
      | ok found u =>
        rw [hs] at ht
        cases ht
        exact hseed.ok hs
      | error e u =>
        rw [hs] at ht
        exact ((ih e).ok ht).trans (hseed.error hs)
    · intro s t d ht
      unfold firstUseful at ht
      cases hs : discover nodes seed s with
      | ok found u =>
        rw [hs] at ht
        cases ht
      | error e u =>
        rw [hs] at ht
        exact ((ih e).error ht).trans (hseed.error hs)

theorem keeps_discoverAny (h : nodes.Spares view) (seeds : List Addr) :
    Keeps view (discoverAny nodes seeds) := keeps_firstUseful h .clusterUnavailable seeds

end Discovery

theorem Membership.tier?_eq_some {members : Membership} {tier : LocalState}
    (h : members.tier? = some tier) :
    (tier = .synced ∧ ∃ node ∈ members.rows, node.state = .synced) ∨
      (tier = .donor ∧ ∀ node ∈ members.rows, node.state ≠ .synced) := by
  unfold tier? at h
  cases hs : members.rows.any (·.state = .synced) with
  | true =>
    simp only [List.find?_cons, hs] at h
    cases h
    exact .inl ⟨rfl, by simpa using hs⟩
  | false =>
    simp only [List.find?_cons, hs, List.find?_nil] at h
    split at h
    · cases h
      exact .inr ⟨rfl, by simpa using hs⟩
    · cases h

namespace Reconciler

variable {r : Reconciler σ} {view : σ → τ} {s t : σ}

theorem keeps_probe (h : r.nodes.Spares view) (addrs : List Addr) :
    Keeps view (r.probe addrs) := by
  induction addrs with
  | nil => exact keeps_pure []
  | cons a rest ih => exact (h.fetch a).outcome.bind fun _ => ih.bind fun _ => keeps_pure _

theorem addr_probe {addrs : List Addr} {probes : List Probe}
    (h : r.probe addrs s = .ok probes t) : probes.map Probe.addr = addrs := by
  induction addrs generalizing s t probes with
  | nil =>
    rw [← (pure_eq_ok.1 h).1]
    rfl
  | cons a rest ih =>
    obtain ⟨answer, u, -, h⟩ := bind_eq_ok.1 h
    obtain ⟨others, v, hv, h⟩ := bind_eq_ok.1 h
    rw [← (pure_eq_ok.1 h).1, List.map_cons, ih hv]

/-- A probe is what the node answered when it was read at its address, in a state that shows
what the first one did. -/
theorem fetch_of_mem_probe (hview : ∀ a, Keeps view (r.nodes.fetch a)) {addrs : List Addr}
    {probes : List Probe} {p : Probe} (h : r.probe addrs s = .ok probes t) (hp : p ∈ probes) :
    ∃ u v, view u = view s ∧
      ((∃ node, p.answer = .ok node ∧ r.nodes.fetch p.addr u = .ok node v) ∨
        ∃ e, p.answer = .error e ∧ r.nodes.fetch p.addr u = .error e v) := by
  induction addrs generalizing s t probes with
  | nil =>
    rw [← (pure_eq_ok.1 h).1] at hp
    cases hp
  | cons a rest ih =>
    obtain ⟨answer, u, hanswer, h⟩ := bind_eq_ok.1 h
    obtain ⟨others, v, hothers, h⟩ := bind_eq_ok.1 h
    rw [← (pure_eq_ok.1 h).1, List.mem_cons] at hp
    rcases hp with rfl | hp
    · exact ⟨s, u, rfl, outcome_eq_ok.1 hanswer⟩
    · obtain ⟨u', v', hu', hread⟩ := ih hothers hp
      exact ⟨u', v', hu'.trans ((hview a).outcome.ok hanswer), hread⟩

theorem keeps_survey (h : r.nodes.Spares view) (seeds : List Addr) :
    Keeps view (r.survey seeds) := by
  apply (Discovery.keeps_discoverAny h seeds).bind
  intro members
  split
  · exact keeps_throw _
  · apply (keeps_probe h _).bind
    intro probes
    dsimp only
    split
    · exact (keeps_throw _).bind fun _ => keeps_pure _
    · exact keeps_pure _

theorem survey_eq_ok {seeds : List Addr} {health : HealthMap}
    (h : r.survey seeds s = .ok health t) :
    ∃ members u tier probes, Discovery.discoverAny r.nodes seeds s = .ok members u ∧
      members.tier? = some tier ∧ r.probe members.addresses u = .ok probes t ∧
      health = HealthMap.ofProbes tier probes := by
  obtain ⟨members, u, hu, h⟩ := bind_eq_ok.1 h
  cases htier : members.tier? with
  | none =>
    simp only [htier] at h
    exact absurd h throw_ne_ok
  | some tier =>
    simp only [htier] at h
    obtain ⟨probes, v, hv, h⟩ := bind_eq_ok.1 h
    split at h
    · obtain ⟨_, _, hthrow, -⟩ := bind_eq_ok.1 h
      exact absurd hthrow throw_ne_ok
    · obtain ⟨hhealth, rfl⟩ := pure_eq_ok.1 h
      exact ⟨members, u, tier, probes, hu, htier, hv, hhealth.symm⟩

/-- The members are listed once each, so that no address is probed twice. -/
theorem distinct_of_survey {seeds : List Addr} {health : HealthMap}
    (h : r.survey seeds s = .ok health t) : health.Distinct := by
  obtain ⟨members, _, tier, probes, -, -, hprobes, rfl⟩ := survey_eq_ok h
  exact HealthMap.distinct_ofProbes ((addr_probe hprobes).symm ▸ members.nodup)

/-! ## Whole passes -/

end Reconciler

def PassRequest.context (req : PassRequest) (health : HealthMap) : PlanContext :=
  ⟨req.writerGroup, req.readerGroup, health, req.blacklist⟩

namespace BackendSet

def SameLive (groups : List UInt32) (s t : BackendSet) : Prop :=
  ∀ g ∈ groups, ∀ a b, b.isRemoved = false → (s.find? g a = some b ↔ t.find? g a = some b)

variable {groups : List UInt32} {s t : BackendSet} {g : UInt32} {a : Addr}

theorem SameLive.online_iff (h : SameLive groups s t) (hg : g ∈ groups) {b : Backend}
    (ho : b.isOnline = true) : s.find? g a = some b ↔ t.find? g a = some b := by
  exact h g hg a b (Backend.isRemoved_of_isOnline ho)

theorem SameLive.onlineAt_iff (h : SameLive groups s t) (hg : g ∈ groups) :
    s.OnlineAt g a ↔ t.OnlineAt g a := by
  constructor
  · rintro ⟨b, hb, ho⟩
    exact ⟨b, (h.online_iff hg ho).1 hb, ho⟩
  · rintro ⟨b, hb, ho⟩
    exact ⟨b, (h.online_iff hg ho).2 hb, ho⟩

/-- The live addresses of a set with rows of these hostgroups alone are found in the other. -/
theorem SameLive.hasLive_iff (h : SameLive groups s t)
    (ht : ∀ k, t.get? k ≠ none → k.hostgroup ∈ groups) :
    (∃ g ∈ groups, ∃ b ∈ s.liveIn g, b.addr = a) ↔ t.HasLive a := by
  constructor
  · rintro ⟨g, hg, b, hb, rfl⟩
    obtain ⟨hb, hr⟩ := mem_liveIn.1 hb
    exact ⟨g, b, (h g hg _ b hr).1 hb, hr⟩
  · rintro ⟨g, b, hb, hr⟩
    have hg : g ∈ groups := by
      apply ht ⟨g, a⟩
      rw [← find?, hb]
      simp
    obtain rfl := (find?_eq_some_iff.1 hb).2.2
    exact ⟨g, hg, b, mem_liveIn.2 ⟨(h g hg _ b hr).2 hb, hr⟩, rfl⟩

end BackendSet

/-- Once all writes are made, the rows in service are those of the plan. -/
theorem PlanContext.find?_written_plan (ctx : PlanContext) {current s : BackendSet} {g : UInt32}
    {a : Addr} (hs : s.find? g a = current.find? g a) {b : Backend} (hb : b.isRemoved = false) :
    (BackendSet.written
        (BackendSet.diff current (ctx.plan current).backends ctx.writerGroup) s).find? g a = some b ↔
      (ctx.plan current).backends.find? g a = some b := by
  have hreshaped := ctx.reshaped_plan current
  have hend := BackendSet.get?_written_diff (k := ⟨g, a⟩) (g := ctx.writerGroup) (fun _ => hs)
    fun _ _ hold ht => hreshaped.reworked hold ht
  rw [BackendSet.find?, hend, BackendSet.find?]
  cases hp : (ctx.plan current).backends.get? ⟨g, a⟩ with
  | none =>
    have hnone : current.get? ⟨g, a⟩ = none := by
      by_contra hc
      exact hreshaped.get?_ne_none hc hp
    have hsnone : s.get? ⟨g, a⟩ = none := hs.trans hnone
    simp [hsnone]
  | some target =>
    constructor
    · intro h
      dsimp only at h
      split at h
      · cases h
      · exact h
    · rintro ⟨⟩
      simp [hb]

namespace Reconciler

variable {r : Reconciler σ} {table : σ → BackendSet} {req : PassRequest} {report : Report} {s t : σ}

/-- What a successful pass did, one stage after the other. -/
theorem reconcile_eq_ok (h : r.reconcile req s = .ok report t) :
    ∃ health u current v, r.survey req.seeds s = .ok health u ∧
      r.load [req.writerGroup, req.readerGroup] u = .ok current v ∧
      r.commit report.mutations v = .ok () t ∧
      report.writer = ((req.context health).plan current).writer ∧
      report.mutations =
        BackendSet.diff current ((req.context health).plan current).backends req.writerGroup := by
  obtain ⟨health, u, hu, h⟩ := bind_eq_ok.1 h
  obtain ⟨current, v, hv, h⟩ := bind_eq_ok.1 h
  obtain ⟨_, w, hw, h⟩ := bind_eq_ok.1 h
  obtain ⟨rfl, rfl⟩ := pure_eq_ok.1 h
  exact ⟨health, u, current, v, hu, hv, hw, rfl, rfl⟩

/-- A successful pass planned from the rows that the table had in its hostgroups, and the
rows in service there are those of the plan. -/
theorem planned_of_reconcile (hadmin : r.admin.Tabled table) (hne : req.writerGroup ≠ req.readerGroup)
    (h : r.reconcile req s = .ok report t) :
    ∃ health u current, r.survey req.seeds s = .ok health u ∧
      report.writer = ((req.context health).plan current).writer ∧
      (∀ k, current.get? k =
        if k.hostgroup ∈ [req.writerGroup, req.readerGroup] then (table u).get? k else none) ∧
      BackendSet.SameLive [req.writerGroup, req.readerGroup] (table t)
        ((req.context health).plan current).backends := by
  obtain ⟨health, u, current, v, hsurvey, hload, hcommit, hwriter, hmutations⟩ := reconcile_eq_ok h
  have hgroups : [req.writerGroup, req.readerGroup].Nodup := by simp [hne]
  have hkeep : table v = table u := (keeps_load hadmin.backends _).ok hload
  have hcurrent := get?_of_load hadmin hgroups hload
  refine ⟨health, u, current, hsurvey, hwriter, hcurrent, ?_⟩
  intro g hg a b hb
  have hwritten : table t = BackendSet.written report.mutations (table v) :=
    table_of_commit hadmin hcommit
  rw [hwritten, hmutations]
  refine (req.context health).find?_written_plan ?_ hb
  rw [BackendSet.find?, BackendSet.find?, hcurrent, if_pos hg, hkeep]

/-- After a successful pass the rows in service in the two hostgroups are those of a plan
for rows of these hostgroups, made from what the pass found out about the members. -/
theorem sameLive_reconcile (hadmin : r.admin.Tabled table) (hne : req.writerGroup ≠ req.readerGroup)
    (h : r.reconcile req s = .ok report t) :
    ∃ health u current, r.survey req.seeds s = .ok health u ∧
      report.writer = ((req.context health).plan current).writer ∧
      (∀ b ∈ current.rows, b.hostgroup ∈ [req.writerGroup, req.readerGroup]) ∧
      BackendSet.SameLive [req.writerGroup, req.readerGroup] (table t)
        ((req.context health).plan current).backends := by
  obtain ⟨health, u, current, hsurvey, hwriter, hcurrent, hlive⟩ := planned_of_reconcile hadmin hne h
  refine ⟨health, u, current, hsurvey, hwriter, ?_, hlive⟩
  intro b hb
  have hrow := hcurrent b.key
  rw [Table.get?_key hb] at hrow
  split at hrow
  · assumption
  · cases hrow

/-- However a pass ends, it leaves the rows alone or has made a prefix of its writes. -/
theorem stateAfter_reconcile_cases (hadmin : r.admin.Tabled table) (hnodes : r.nodes.Spares table)
    (hne : req.writerGroup ≠ req.readerGroup) (s : σ) :
    table (stateAfter (r.reconcile req) s) = table s ∨
    ∃ health current done,
      (∀ g ∈ [req.writerGroup, req.readerGroup], ∀ a, (table s).find? g a = current.find? g a) ∧
      done <+: BackendSet.diff current ((req.context health).plan current).backends
        req.writerGroup ∧
      table (stateAfter (r.reconcile req) s) = BackendSet.written done (table s) := by
  have hgroups : [req.writerGroup, req.readerGroup].Nodup := by simp [hne]
  have hsurvey := keeps_survey hnodes req.seeds
  have hloads := keeps_load hadmin.backends [req.writerGroup, req.readerGroup]
  unfold reconcile
  cases hu : r.survey req.seeds s with
  | error e u =>
    left
    rw [stateAfter_bind_of_error hu]
    exact hsurvey.error hu
  | ok health u =>
    have hsu : table u = table s := hsurvey.ok hu
    rw [stateAfter_bind_of_ok hu]
    cases hv : r.load [req.writerGroup, req.readerGroup] u with
    | error e v =>
      left
      rw [stateAfter_bind_of_error hv]
      exact (hloads.error hv).trans hsu
    | ok current v =>
      have hsv : table v = table s := (hloads.ok hv).trans hsu
      right
      rw [stateAfter_bind_of_ok hv]
      have hcurrent : ∀ g ∈ [req.writerGroup, req.readerGroup], ∀ a,
          (table s).find? g a = current.find? g a := by
        intro g hg a
        rw [BackendSet.find?, BackendSet.find?, get?_of_load hadmin hgroups hv, if_pos hg, hsu]
      refine ⟨health, current, ?_⟩
      rcases commit_cases hadmin (BackendSet.diff current
          ((req.context health).plan current).backends req.writerGroup) v with
        ⟨w, hw, htable⟩ | ⟨e, w, hw, done, hdone, htable⟩
      · refine ⟨_, hcurrent, List.prefix_rfl, ?_⟩
        rw [← hsv, ← htable]
        exact congrArg table (stateAfter_bind_of_ok hw)
      · refine ⟨done, hcurrent, hdone, ?_⟩
        rw [← hsv, ← htable]
        exact congrArg table (stateAfter_bind_of_error hw)

/-- No pass, however it ends, puts a second writer online. -/
theorem length_onlineIn_stateAfter_reconcile (hadmin : r.admin.Tabled table)
    (hnodes : r.nodes.Spares table) (hne : req.writerGroup ≠ req.readerGroup) (s : σ) :
    ((table (stateAfter (r.reconcile req) s)).onlineIn req.writerGroup).length ≤
      max 1 ((table s).onlineIn req.writerGroup).length := by
  rcases stateAfter_reconcile_cases hadmin hnodes hne s with
    h | ⟨health, current, done, hs, hdone, h⟩
  · rw [h]
    exact le_max_right _ _
  · rw [h]
    exact (req.context health).length_onlineIn_written hne (hs req.writerGroup (by simp)) hdone

end Reconciler

namespace Deployment

/-- A probe that succeeds shows the node as it stood in the cluster before the first probe. -/
theorem node_of_mem_probe {monitor : Option Credentials} {addrs : List Addr}
    {probes : List Probe} {p : Probe} {node : Node} {d d' : Deployment}
    (h : (Reconciler.mk memoryNodes memoryAdmin monitor).probe addrs d = .ok probes d')
    (hp : p ∈ probes) (hanswer : p.answer = .ok node) :
    d.cluster.replies.node p.addr = .ok node := by
  have hview : ∀ a, Keeps (fun d => (cluster d).replies.node) (memoryNodes.fetch a) :=
    fun a => (Cluster.keeps_fetch a).within fun _ _ => rfl
  obtain ⟨u, v, hu, ⟨node', hnode', hread⟩ | ⟨e, he, -⟩⟩ := Reconciler.fetch_of_mem_probe hview h hp
  · have hwithin : Action.within cluster (fun cluster d => { d with cluster })
        (Cluster.fetch p.addr) u = .ok node' v := hread
    obtain ⟨c, hfetch, -⟩ := within_eq_ok.1 hwithin
    rw [hanswer] at hnode'
    cases hnode'
    rw [← hu]
    exact Cluster.node_replies_of_fetch hfetch
  · rw [hanswer] at he
    cases he

theorem tabled_memoryAdmin : memoryAdmin.Tabled fun d => d.store.backends :=
  Store.tabled_admin.within fun _ _ => rfl

/-- After a successful pass every row in service is at a member that answered its probe as
primary and without rejecting queries. The member serves in the tier of the pass, or it is
a donor that serves while it is the last companion of the writer. The writer that the pass
reports is the one that is online. -/
theorem reconcile_serves_probed (monitor : Option Credentials) {req : PassRequest}
    (hne : req.writerGroup ≠ req.readerGroup) {d d' : Deployment} {report : Report}
    (h : (Reconciler.mk memoryNodes memoryAdmin monitor).reconcile req d = .ok report d') :
    ∃ members d₁ tier probes d₂,
      Discovery.discoverAny memoryNodes req.seeds d = .ok members d₁ ∧
      ((tier = .synced ∧ ∃ node ∈ members.rows, node.state = .synced) ∨
        (tier = .donor ∧ ∀ node ∈ members.rows, node.state ≠ .synced)) ∧
      (Reconciler.mk memoryNodes memoryAdmin monitor).probe members.addresses d₁ = .ok probes d₂ ∧
      (∀ g ∈ [req.writerGroup, req.readerGroup], ∀ b ∈ d'.store.backends.onlineIn g,
        b.addr ∈ members.addresses ∧
        ∃ node, ⟨b.addr, .ok node⟩ ∈ probes ∧ node.isPrimary = true ∧ node.rejectsQueries = false ∧
          ((node.state = tier ∧ (node.state = .donor → node.rejectsAsDonor = false)) ∨
            (node.state = .donor ∧ node.rejectsAsDonor = false ∧ g = req.readerGroup ∧
              ∃ w, report.writer = some w ∧ b.addr ≠ w ∧
                ∀ a, (∃ g' ∈ [req.writerGroup, req.readerGroup], ∃ c ∈ d'.store.backends.liveIn g',
                  c.addr = a) ↔ a = w ∨ a = b.addr))) ∧
      (d'.store.backends.onlineIn req.writerGroup).map Backend.addr = report.writer.toList := by
  obtain ⟨health, d₂, current, hsurvey, hwriter, hcurrent, hlive⟩ :=
    Reconciler.sameLive_reconcile tabled_memoryAdmin hne h
  obtain ⟨members, d₁, tier, probes, hmembers, htier, hprobes, rfl⟩ :=
    Reconciler.survey_eq_ok hsurvey
  have haddrs := Reconciler.addr_probe hprobes
  have hd : (req.context (HealthMap.ofProbes tier probes)).health.Distinct :=
    HealthMap.distinct_ofProbes (haddrs.symm ▸ members.nodup)
  refine ⟨members, d₁, tier, probes, d₂, hmembers, Membership.tier?_eq_some htier, hprobes, ?_, ?_⟩
  · intro g hg b hb
    obtain ⟨hb, ho⟩ := BackendSet.mem_onlineIn.1 hb
    have hplanned := (hlive.online_iff hg ho).1 hb
    have hmember : ∀ node, ⟨b.addr, .ok node⟩ ∈ probes → b.addr ∈ members.addresses := by
      intro node hnode
      rw [← haddrs]
      exact List.mem_map.2 ⟨_, hnode, rfl⟩
    rcases PlanContext.online_plan_cases _ hne hd hg hplanned ho with hr | ⟨hreader, hdonor, hlast⟩
    · obtain ⟨node, hnode, hserves⟩ := HealthMap.exists_probe_of_routable hr
      obtain ⟨hprimary, hqueries, htier, hdonor⟩ := Node.servesIn_iff.1 hserves
      exact ⟨hmember node hnode, node, hnode, hprimary, hqueries, .inl ⟨htier, hdonor⟩⟩
    · obtain ⟨w, hw, hlast⟩ := hlast
      obtain ⟨hne', hcompanions⟩ := BackendSet.lastCompanion?_eq_some_iff.1 hlast
      obtain ⟨node, hnode, hserves⟩ := HealthMap.exists_probe_of_servingDonor hdonor
      obtain ⟨hprimary, hqueries, hstate, hrejects⟩ := Node.isServingDonor_iff.1 hserves
      refine ⟨hmember node hnode, node, hnode, hprimary, hqueries, .inr ⟨hstate, hrejects, hreader,
        w, hwriter.trans hw, hne', fun a => ?_⟩⟩
      rw [← hcompanions]
      apply hlive.hasLive_iff
      intro k hk
      exact (PlanContext.reshaped_plan _ current).hostgroup_mem hcurrent hk
  · apply BackendSet.addr_onlineIn_eq_toList
    intro a
    have hin : req.writerGroup ∈ [req.writerGroup, req.readerGroup] := by simp
    rw [hwriter, ← PlanContext.onlineAt_plan_iff _ hne]
    constructor
    · rintro ⟨b, hb, ho⟩
      exact ⟨b, (hlive.online_iff hin ho).1 hb, ho⟩
    · rintro ⟨b, hb, ho⟩
      exact ⟨b, (hlive.online_iff hin ho).2 hb, ho⟩

def degraded : Deployment where
  cluster := Cluster.ofNodes [PlanContext.syncedNode "db1",
    { PlanContext.syncedNode "db2" with state := .donor }]
  store := { backends := Table.ofList [Backend.new 10 ⟨"db1", 3306⟩ .writer .shunned,
    Backend.new 10 ⟨"db9", 3306⟩ .writer, Backend.new 11 ⟨"db2", 3306⟩ .reader] }
  network := Sql.Network.offline []

def degradedRequest : PassRequest := { seeds := [⟨"db1", 3306⟩] }

theorem reconcile_serves_probed_of_degraded :
    degradedRequest.writerGroup ≠ degradedRequest.readerGroup ∧
    ∃ report d', (Reconciler.mk memoryNodes memoryAdmin none).reconcile degradedRequest degraded =
        .ok report d' ∧
      (d'.store.backends.onlineIn 10).map Backend.addr = [⟨"db1", 3306⟩] ∧
      ∃ members d₁ probes d₂,
        Discovery.discoverAny memoryNodes degradedRequest.seeds degraded = .ok members d₁ ∧
        (Reconciler.mk memoryNodes memoryAdmin none).probe members.addresses d₁ = .ok probes d₂ ∧
        ∀ b ∈ d'.store.backends.onlineIn 11, b.addr ∈ members.addresses ∧
          ∃ node, ⟨b.addr, .ok node⟩ ∈ probes ∧ d₁.cluster.replies.node b.addr = .ok node ∧
            node.isPrimary = true := by
  have hne : degradedRequest.writerGroup ≠ degradedRequest.readerGroup := by decide
  have hok : (result? ((Reconciler.mk memoryNodes memoryAdmin none).reconcile degradedRequest)
      degraded).map Report.writer = some (some ⟨"db1", 3306⟩) := by cbv
  obtain ⟨report, hreport, hdb1⟩ := Option.map_eq_some_iff.1 hok
  obtain ⟨d', hrun⟩ := exists_of_result? hreport
  obtain ⟨members, d₁, tier, probes, d₂, hmembers, -, hprobes, hrows, hwriter⟩ :=
    reconcile_serves_probed none hne hrun
  rw [hdb1] at hwriter
  refine ⟨hne, report, d', hrun, hwriter, members, d₁, probes, d₂, hmembers, hprobes, ?_⟩
  intro b hb
  obtain ⟨hmember, node, hnode, hprimary, -⟩ := hrows 11 (by decide) b hb
  exact ⟨hmember, node, hnode, node_of_mem_probe hprobes hnode rfl, hprimary⟩

end Deployment

end SingleWriter
