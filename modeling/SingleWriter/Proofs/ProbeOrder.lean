import SingleWriter.Proofs.Discoveries
import SingleWriter.Proofs.Incumbents
import SingleWriter.Proofs.Release

/-!
# The order of the probes

Two things ask in which order the members were probed: the choice of a writer, and the
addition of reader rows. The first is not made where some node is online before it, and the
second decides only about the places of new rows. Which seed a pass starts from therefore
moves no writer as long as a node outside the blacklist can stay one.
-/

set_option autoImplicit false

namespace SingleWriter

open SingleWriter.Action

namespace HealthMap

variable {m n : HealthMap} (h : n.findings.Perm m.findings)

include h

theorem distinct_of_perm (hd : m.Distinct) : n.Distinct :=
  (h.map Finding.addr).nodup_iff.2 hd

theorem perm_candidates : n.candidates.Perm m.candidates := by
  unfold candidates
  exact (h.filter _).map Finding.addr

theorem isServingDonor_of_perm : n.isServingDonor = m.isServingDonor :=
  funext fun _ => h.any_eq

theorem health_of_perm (hd : m.Distinct) (a : Addr) : n.health a = m.health a := by
  have habsent : ∀ k : HealthMap, (∀ f ∈ k.findings, f.addr ≠ a) → k.health a = .absent := by
    intro k hk
    by_contra hne
    obtain ⟨f, hf, -, ha⟩ := exists_finding_of_health rfl hne
    exact hk f hf ha
  by_cases hprobed : ∃ f ∈ m.findings, f.addr = a
  · obtain ⟨f, hf, rfl⟩ := hprobed
    rw [health_eq_of_mem hd hf, health_eq_of_mem (distinct_of_perm h hd) (h.mem_iff.2 hf)]
  · have hnone : ∀ f ∈ m.findings, f.addr ≠ a := fun f hf ha => hprobed ⟨f, hf, ha⟩
    rw [habsent m hnone, habsent n fun f hf => hnone f (h.mem_iff.1 hf)]

end HealthMap

namespace BackendSet

variable {s t : BackendSet} (h : ∀ g a, t.find? g a = s.find? g a)

include h

theorem perm_liveIn (g : UInt32) : (t.liveIn g).Perm (s.liveIn g) := by
  have hrows : t.rows.Perm s.rows := Table.perm_of_get?_eq fun k => h k.hostgroup k.addr
  unfold liveIn inHostgroup
  exact (hrows.filter _).filter _

theorem hasLive_congr (a : Addr) : t.HasLive a ↔ s.HasLive a := by
  simp only [HasLive, h]

end BackendSet

namespace PlanContext

variable (ctx : PlanContext) {s t current : BackendSet} {other : HealthMap} {g : UInt32}
  {a w : Addr}

def withHealth (health : HealthMap) : PlanContext := { ctx with health }

def CanStay (s : BackendSet) (a : Addr) : Prop :=
  ctx.health.health a = .routable ∧ ctx.blacklist.contains a = false ∧
    ∃ b, s.find? ctx.writerGroup a = some b ∧ b.isPinned = false ∧ b.isRemoved = false

/-- Where some node can stay writer, there is a writer that can stay in its turn. -/
theorem exists_canStay_plan (hne : ctx.writerGroup ≠ ctx.readerGroup) (hd : ctx.health.Distinct)
    (h : ctx.CanStay current a) :
    ∃ w, (ctx.plan current).writer = some w ∧ ctx.CanStay (ctx.plan current).backends w := by
  obtain ⟨hh, hfree, hrow⟩ := h
  obtain ⟨w, hw, hwfree⟩ := ctx.unlisted_writer_of_canTakeOver hne ⟨hh, hfree, .inr hrow⟩
  obtain ⟨b, hb, ho, hp⟩ := ctx.find?_plan_self hne hw
  exact ⟨w, hw, ctx.routable_of_elect hne hd hw, hwfree, b, hb, hp,
    Backend.isRemoved_of_isOnline ho⟩

theorem canStay_congr (h : ∀ b, b.isRemoved = false →
      (s.find? ctx.writerGroup a = some b ↔ t.find? ctx.writerGroup a = some b)) :
    ctx.CanStay s a ↔ ctx.CanStay t a := by
  refine and_congr_right fun _ => and_congr_right fun _ => exists_congr fun b => ?_
  constructor
  · rintro ⟨hb, hp, hr⟩
    exact ⟨(h b hr).1 hb, hp, hr⟩
  · rintro ⟨hb, hp, hr⟩
    exact ⟨(h b hr).2 hb, hp, hr⟩

/-- The rows that a pass loads are enough to tell. -/
theorem canStay_loaded_iff {rows loaded : BackendSet} (h : ∀ k, loaded.get? k =
      if k.hostgroup ∈ [ctx.writerGroup, ctx.readerGroup] then rows.get? k else none) :
    ctx.CanStay loaded a ↔ ctx.CanStay rows a := by
  apply ctx.canStay_congr
  intro b _
  rw [BackendSet.find?, h, if_pos (by simp), BackendSet.find?]

/-! ## Stages that do not ask -/

theorem Agrees.convergeReaders_eq {ctx other : PlanContext} (h : ctx.Agrees other)
    (s : BackendSet) (writer : Option Addr) :
    other.convergeReaders s writer = ctx.convergeReaders s writer := by
  have hrow : ∀ b, other.settleReader writer b = ctx.settleReader writer b := by
    intro b
    simp only [settleReader, followHealth, h.readerGroup, h.health]
  have hsettled : other.settledReaders s writer = ctx.settledReaders s writer :=
    Table.ext_rows (List.map_congr_left fun b _ => hrow b)
  cases writer with
  | none => exact hsettled
  | some w =>
    change other.fallback (other.settledReaders s (some w)) w =
      ctx.fallback (ctx.settledReaders s (some w)) w
    rw [hsettled]
    simp only [fallback, ensureReader, readerKey, h.readerGroup]

theorem find?_retireWriterReader_congr (h : ∀ g a, t.find? g a = s.find? g a) (w : Addr)
    (g : UInt32) (a : Addr) :
    (ctx.retireWriterReader t w).find? g a = (ctx.retireWriterReader s w).find? g a := by
  by_cases hself : g = ctx.readerGroup ∧ a = w
  · obtain ⟨rfl, rfl⟩ := hself
    have hlive := BackendSet.perm_liveIn h ctx.readerGroup
    have hretires : ctx.Retires t a ↔ ctx.Retires s a := by
      rw [Retires, Retires, h, hlive.length_eq, hlive.any_eq]
    rw [find?_retireWriterReader_self, find?_retireWriterReader_self, h]
    simp only [hretires]
  · rw [ctx.find?_retireWriterReader_of_ne hself, ctx.find?_retireWriterReader_of_ne hself, h]

section

variable (hperm : other.findings.Perm ctx.health.findings)

include hperm

theorem agrees_withHealth (hd : ctx.health.Distinct) : ctx.Agrees (ctx.withHealth other) where
  writerGroup := rfl
  readerGroup := rfl
  health := HealthMap.health_of_perm hperm hd
  holdsBack a _ := by
    have hunlisted : (ctx.withHealth other).hasUnlisted = ctx.hasUnlisted :=
      (HealthMap.perm_candidates hperm).any_eq
    rw [holdsBack, holdsBack, hunlisted]
    rfl

/-- Where some node is online before the choice, the first one in the table is kept. -/
theorem elect_withHealth (hd : ctx.health.Distinct)
    (honline : (ctx.recovered s).OnlineAt ctx.writerGroup a) :
    (ctx.withHealth other).elect s = ctx.elect s := by
  have hmem := BackendSet.mem_addr_onlineIn.2 honline
  rw [elect_eq, elect_eq, (ctx.agrees_withHealth hperm hd).recovered_eq]
  cases hu : ((ctx.recovered s).onlineIn ctx.writerGroup).map Backend.addr with
  | nil =>
    rw [hu] at hmem
    cases hmem
  | cons kept extra =>
    have hu' : ((ctx.recovered s).onlineIn (ctx.withHealth other).writerGroup).map Backend.addr =
        kept :: extra := hu
    simp only [electFrom, hu, hu']
    rfl

theorem find?_fillReaders_withHealth (hne : ctx.writerGroup ≠ ctx.readerGroup) (s : BackendSet)
    (g : UInt32) (a : Addr) :
    ((ctx.withHealth other).fillReaders s).find? g a = (ctx.fillReaders s).find? g a := by
  have hcandidate : a ∈ other.candidates ↔ a ∈ ctx.health.candidates :=
    (HealthMap.perm_candidates hperm).mem_iff
  have hrow := (ctx.withHealth other).find?_fillReaders hne s g a
  rw [hrow, ctx.find?_fillReaders hne]
  exact if_congr (and_congr_right fun _ => and_congr_left fun _ => hcandidate) rfl rfl

theorem find?_finish_withHealth (h : ∀ g a, t.find? g a = s.find? g a) (writer : Option Addr)
    (g : UInt32) (a : Addr) :
    ((ctx.withHealth other).finish t writer).find? g a = (ctx.finish s writer).find? g a := by
  cases writer with
  | none => exact h g a
  | some w =>
    have hretired := ctx.find?_retireWriterReader_congr h w
    have hlive := BackendSet.hasLive_congr hretired
    have hpromoted : (ctx.withHealth other).promoted? (ctx.retireWriterReader t w) w =
        ctx.promoted? (ctx.retireWriterReader s w) w := by
      have hdonor : (ctx.withHealth other).health.isServingDonor = ctx.health.isServingDonor :=
        HealthMap.isServingDonor_of_perm hperm
      rw [promoted?, promoted?, BackendSet.lastCompanion?_congr hlive, hdonor]
    change ((ctx.withHealth other).promoteDonor (ctx.retireWriterReader t w) w).find? g a =
      (ctx.promoteDonor (ctx.retireWriterReader s w) w).find? g a
    rw [find?_promoteDonor, find?_promoteDonor, hpromoted, hretired]
    rfl

/-! ## Plans -/

variable (hne : ctx.writerGroup ≠ ctx.readerGroup) (hd : ctx.health.Distinct)
  (hstays : ctx.CanStay current a)

include hne hd hstays

theorem elect_withHealth_of_canStay : (ctx.withHealth other).elect current = ctx.elect current := by
  obtain ⟨hh, hfree, b, hb, hp, hr⟩ := hstays
  have hback := ctx.holdsBack_of_unlisted hfree
  obtain ⟨y, honline⟩ := ctx.exists_onlineAt_recovered hne hb hp hr hh hback
  exact ctx.elect_withHealth hperm hd honline

theorem writer_plan_withHealth :
    ((ctx.withHealth other).plan current).writer = (ctx.plan current).writer :=
  congrArg Prod.snd (ctx.elect_withHealth_of_canStay hperm hne hd hstays)

theorem find?_plan_withHealth (g : UInt32) (a : Addr) :
    ((ctx.withHealth other).plan current).backends.find? g a =
      (ctx.plan current).backends.find? g a := by
  have helect := ctx.elect_withHealth_of_canStay hperm hne hd hstays
  have hconverged := (ctx.agrees_withHealth hperm hd).convergeReaders_eq
  rw [backends_plan, backends_plan, ctx.writer_plan_withHealth hperm hne hd hstays, helect,
    served, served, hconverged]
  exact ctx.find?_finish_withHealth hperm (ctx.find?_fillReaders_withHealth hperm hne _) _ g a

/-- The same rows are planned, and only those that are added may stand in another order. -/
theorem rows_plan_withHealth :
    ∃ kept added added', (ctx.plan current).backends.rows = kept ++ added ∧
      ((ctx.withHealth other).plan current).backends.rows = kept ++ added' ∧
      kept.map Backend.key = current.keys ∧ added'.Perm added :=
  Table.exists_perm_of_prefix_keys (ctx.prefix_keys_plan current)
    ((ctx.withHealth other).prefix_keys_plan current)
    fun k => ctx.find?_plan_withHealth hperm hne hd hstays k.hostgroup k.addr

end

end PlanContext

/-! ## Surveys -/

namespace Reconciler

variable {σ τ : Type} {r : Reconciler σ} {table : σ → BackendSet} {view : σ → τ} {v : τ}
  {seeds seeds' : List Addr} {members members' : Membership} {tier : LocalState}
  {probes : List Probe} {health : HealthMap} {s t t' u u' x : σ}

/-- While the nodes are only read, each address has one answer. -/
theorem exists_probe_answers (h : r.nodes.Reads view v) (hs : view s = v) :
    ∃ answer : Addr → Probe, ∀ addrs, r.probe addrs s = .ok (addrs.map answer) s := by
  have hone : ∀ a, ∃ answer, (outcome (r.nodes.fetch a) : Action σ (Except NodeError Node)) s =
      .ok answer s := by
    intro a
    rcases h.fetch a with ⟨node, hnode⟩ | ⟨e, he⟩
    · exact ⟨.ok node, by rw [outcome, hnode s hs]⟩
    · exact ⟨.error e, by rw [outcome, he s hs]⟩
  choose answer hanswer using hone
  refine ⟨fun a => ⟨a, answer a⟩, fun addrs => ?_⟩
  induction addrs with
  | nil => rfl
  | cons a rest ih => exact (bind_of_ok (hanswer a)).trans (bind_of_ok ih)

/-- Seeds with the same members find the same, in the order of the members. -/
theorem survey_of_perm (hnodes : r.nodes.Reads view (view s))
    (hm : Discovery.discoverAny r.nodes seeds s = .ok members u)
    (hm' : Discovery.discoverAny r.nodes seeds' s = .ok members' u')
    (hperm : members'.rows.Perm members.rows) (h : r.survey seeds s = .ok health t) :
    t = s ∧ ∃ other, r.survey seeds' s = .ok other s ∧ other.findings.Perm health.findings := by
  obtain ⟨rfl, -⟩ :=
    (Discovery.reads_firstUseful hnodes .clusterUnavailable seeds).again hm rfl rfl
  obtain ⟨rfl, -⟩ :=
    (Discovery.reads_firstUseful hnodes .clusterUnavailable seeds').again hm' rfl rfl
  obtain ⟨answer, hanswer⟩ := exists_probe_answers hnodes rfl
  obtain ⟨found, _, tier, probes, hfound, htier, hprobes, rfl⟩ := survey_eq_ok h
  rw [hm] at hfound
  cases hfound
  rw [hanswer] at hprobes
  cases hprobes
  have hfindings : (HealthMap.ofProbes tier (members'.addresses.map answer)).findings.Perm
      (HealthMap.ofProbes tier (members.addresses.map answer)).findings :=
    ((hperm.map Node.addr).map answer).map (Probe.finding tier)
  have hfirst := survey_of_members hm htier (hanswer members.addresses)
  have hsecond := survey_of_members hm' ((Membership.tier?_of_perm hperm).trans htier)
    (hanswer members'.addresses)
  have hsome : (HealthMap.ofProbes tier (members.addresses.map answer)).candidates.isEmpty =
      false := by
    by_contra hempty
    rw [hfirst, if_pos (by simpa using hempty)] at h
    cases h
  refine ⟨rfl, _, ?_, hfindings⟩
  rw [hsecond, (HealthMap.perm_candidates hfindings).isEmpty_eq, hsome, if_neg (by decide)]

/-! ## Passes -/

variable {req : PassRequest} {report report' : Report} {a : Addr}

/-- Passes from seeds with the same members report the same writer and leave the same rows,
where some node can stay writer. -/
theorem same_rows_of_perm (hadmin : r.admin.Tabled table) (hnodes : r.nodes.Reads view (view s))
    (hne : req.writerGroup ≠ req.readerGroup)
    (hm : Discovery.discoverAny r.nodes req.seeds s = .ok members u)
    (hm' : Discovery.discoverAny r.nodes seeds' s = .ok members' u')
    (hperm : members'.rows.Perm members.rows) (hsurvey : r.survey req.seeds s = .ok health x)
    (hstays : (req.context health).CanStay (table s) a)
    (h : r.reconcile req s = .ok report t)
    (h' : r.reconcile { req with seeds := seeds' } s = .ok report' t') :
    report'.writer = report.writer ∧ ∀ k, (table t').get? k = (table t).get? k := by
  obtain ⟨_, _, current, w, hfound, hload, hcommit, hwriter, hmutations⟩ := reconcile_eq_ok h
  obtain ⟨_, _, current', w', hfound', hload', hcommit', hwriter', hmutations'⟩ :=
    reconcile_eq_ok h'
  obtain ⟨rfl, other, hother, hfindings⟩ := survey_of_perm hnodes hm hm' hperm hsurvey
  cases hsurvey.symm.trans hfound
  cases hother.symm.trans hfound'
  cases hload.symm.trans hload'
  have hd : (req.context health).health.Distinct := distinct_of_survey hsurvey
  have hgroups : [req.writerGroup, req.readerGroup].Nodup := by simp [hne]
  have hloaded : (req.context health).CanStay current a :=
    ((req.context health).canStay_loaded_iff (get?_of_load hadmin hgroups hload)).2 hstays
  constructor
  · rw [hwriter, hwriter']
    exact (req.context health).writer_plan_withHealth hfindings hne hd hloaded
  · intro k
    rw [table_of_commit hadmin hcommit, table_of_commit hadmin hcommit', hmutations, hmutations']
    exact BackendSet.get?_written_diff_congr
      (fun k => (req.context health).find?_plan_withHealth hfindings hne hd hloaded _ _) _ _ k

theorem exists_canStay_of_reconcile (hadmin : r.admin.Tabled table)
    (hnodes : r.nodes.Reads view (view s)) (hne : req.writerGroup ≠ req.readerGroup)
    (hsurvey : r.survey req.seeds s = .ok health x)
    (hstays : (req.context health).CanStay (table s) a) (h : r.reconcile req s = .ok report t) :
    ∃ w, (req.context health).CanStay (table t) w := by
  obtain ⟨_, _, current, hfound, -, hcurrent, hlive⟩ := planned_of_reconcile hadmin hne h
  cases hsurvey.symm.trans hfound
  obtain ⟨rfl, -⟩ := (reads_survey hnodes req.seeds).again hsurvey rfl rfl
  have hd : (req.context health).health.Distinct := distinct_of_survey hsurvey
  have hloaded : (req.context health).CanStay current a :=
    ((req.context health).canStay_loaded_iff hcurrent).2 hstays
  obtain ⟨w, -, hw⟩ := (req.context health).exists_canStay_plan hne hd hloaded
  refine ⟨w, ((req.context health).canStay_congr fun b hr => ?_).2 hw⟩
  exact hlive _ (by simp [PassRequest.context]) w b hr

/-- After a pass, a pass from a seed with the same members keeps its writer and its rows. -/
theorem same_rows_again (hadmin : r.admin.Tabled table) {up : σ → Prop}
    (hserves : r.admin.Serves up) (hspares : r.admin.Spares view)
    (hnodes : r.nodes.Reads view (view s)) (hne : req.writerGroup ≠ req.readerGroup)
    (hm : Discovery.discoverAny r.nodes req.seeds s = .ok members u)
    (hm' : Discovery.discoverAny r.nodes seeds' s = .ok members' u')
    (hperm : members'.rows.Perm members.rows) (hsurvey : r.survey req.seeds s = .ok health x)
    (hstays : (req.context health).CanStay (table s) a)
    (h : r.reconcile req s = .ok report t)
    (h' : r.reconcile { req with seeds := seeds' } t = .ok report' t') :
    report'.writer = report.writer ∧ ∀ k, (table t').get? k = (table t).get? k := by
  have hview : view t = view s := view_of_reconcile hspares hnodes h
  have hnodes' : r.nodes.Reads view (view t) := hview ▸ hnodes
  have hdiscovers := Discovery.reads_firstUseful hnodes .clusterUnavailable
  obtain ⟨-, hm⟩ := (hdiscovers req.seeds).again hm rfl hview
  obtain ⟨-, hm'⟩ := (hdiscovers seeds').again hm' rfl hview
  obtain ⟨-, hsurvey'⟩ := (reads_survey hnodes req.seeds).again hsurvey rfl hview
  obtain ⟨t₂, hagain, hsame⟩ := reconcile_again hadmin hserves hspares hnodes hne h
  obtain ⟨w, hw⟩ := exists_canStay_of_reconcile hadmin hnodes hne hsurvey hstays h
  obtain ⟨hwriter, hrows⟩ :=
    same_rows_of_perm hadmin hnodes' hne hm hm' hperm hsurvey' hw hagain h'
  exact ⟨hwriter, fun k => by rw [hrows, hsame]⟩

end Reconciler

namespace Deployment

/-- Probe order moves no writer that can stay. Where some writer row is neither pinned nor
removed, at a routable node outside the blacklist, the same members probed in another order
lead to the same writer and the same rows, of which only the new ones may stand in another
order. A pass from another seed with the same members therefore reports the same writer and
leaves the same rows, whether it runs instead of a pass or after it. -/
theorem probe_order_moves_no_writer (req : PassRequest) (hne : req.writerGroup ≠ req.readerGroup) :
    (∀ health other : HealthMap, health.Distinct → other.findings.Perm health.findings →
      ∀ (current : BackendSet) (a : Addr), (req.context health).CanStay current a →
        (∃ w, ((req.context health).plan current).writer = some w ∧
          ((req.context other).plan current).writer = some w) ∧
        ∃ kept added added', ((req.context health).plan current).backends.rows = kept ++ added ∧
          ((req.context other).plan current).backends.rows = kept ++ added' ∧
          kept.map Backend.key = current.keys ∧ added'.Perm added) ∧
    (∀ (monitor : Option Credentials) (d : Deployment) (seeds : List Addr),
      (∀ m ∈ d.cluster.rows, m.answersLeft = none) →
      ∀ members members' e e', Discovery.discoverAny memoryNodes req.seeds d = .ok members e →
        Discovery.discoverAny memoryNodes seeds d = .ok members' e' →
        members'.rows.Perm members.rows →
      ∀ health d₀ a, (reconciler monitor).survey req.seeds d = .ok health d₀ →
        (req.context health).CanStay d.store.backends a →
      ∀ report d₁, (reconciler monitor).reconcile req d = .ok report d₁ →
        (∀ report' d₂, (reconciler monitor).reconcile { req with seeds } d = .ok report' d₂ →
          report'.writer = report.writer ∧
            d₂.store.backends.rows.Perm d₁.store.backends.rows) ∧
        (∀ report' d₂, (reconciler monitor).reconcile { req with seeds } d₁ = .ok report' d₂ →
          report'.writer = report.writer ∧
            d₂.store.backends.rows.Perm d₁.store.backends.rows) ∧
        (d.store.writesLeft = none →
          ∃ report' d₂, (reconciler monitor).reconcile { req with seeds } d = .ok report' d₂)) := by
  constructor
  · intro health other hd hperm current a hstays
    obtain ⟨w, hw, -⟩ := (req.context health).exists_canStay_plan hne hd hstays
    have hother := (req.context health).writer_plan_withHealth hperm hne hd hstays
    exact ⟨⟨w, hw, hother.trans hw⟩,
      (req.context health).rows_plan_withHealth hperm hne hd hstays⟩
  · intro monitor d seeds hanswers members members' e e' hm hm' hperm health d₀ a hsurvey hstays
      report d₁ hpass
    have hadmin : (reconciler monitor).admin.Tabled fun d => d.store.backends := tabled_memoryAdmin
    have hnodes : (reconciler monitor).nodes.Reads cluster d.cluster := reads_memoryNodes hanswers
    refine ⟨?_, ?_, fun hleft => ?_⟩
    · intro report' d₂ hother
      obtain ⟨hwriter, hrows⟩ := Reconciler.same_rows_of_perm hadmin hnodes hne hm hm' hperm
        hsurvey hstays hpass hother
      exact ⟨hwriter, Table.perm_of_get?_eq hrows⟩
    · intro report' d₂ hnext
      obtain ⟨hwriter, hrows⟩ := Reconciler.same_rows_again hadmin serves_memoryAdmin
        spares_memoryAdmin hnodes hne hm hm' hperm hsurvey hstays hpass hnext
      exact ⟨hwriter, Table.perm_of_get?_eq hrows⟩
    · obtain ⟨-, other, hother, -⟩ := Reconciler.survey_of_perm hnodes hm hm' hperm hsurvey
      exact exists_reconcile hne hother (up_of_reconcile hpass) hleft

def secondFirst : HealthMap :=
  HealthMap.ofProbes .synced [PlanContext.syncedProbe "db2", PlanContext.syncedProbe "db1",
    PlanContext.syncedProbe "db3"]

theorem probe_order_moves_no_writer_of_secondFirst :
    degradedRequest.writerGroup ≠ degradedRequest.readerGroup ∧
    PlanContext.threeSynced.health.Distinct ∧
    secondFirst.findings.Perm PlanContext.threeSynced.health.findings ∧
    ((degradedRequest.context secondFirst).plan scaledOut.store.backends).writer =
      some ⟨"db1", 3306⟩ ∧
    (∀ m ∈ scaledOut.cluster.rows, m.answersLeft = none) ∧
    ∃ report d₁, (reconciler none).reconcile { degradedRequest with seeds := [⟨"db2", 3306⟩] }
        scaledOut = .ok report d₁ ∧ report.writer = some ⟨"db1", 3306⟩ := by
  have hne : degradedRequest.writerGroup ≠ degradedRequest.readerGroup := by decide
  have hd : PlanContext.threeSynced.health.Distinct := by
    unfold HealthMap.Distinct
    decide
  have hperm : secondFirst.findings.Perm PlanContext.threeSynced.health.findings := by decide
  have hanswers : ∀ m ∈ scaledOut.cluster.rows, m.answersLeft = none := by decide
  have hfirst : (result? (Discovery.discoverAny memoryNodes degradedRequest.seeds)
      scaledOut).map (·.rows) = some [PlanContext.syncedNode "db1", PlanContext.syncedNode "db2",
        PlanContext.syncedNode "db3"] := by cbv
  have hsecond : (result? (Discovery.discoverAny memoryNodes [⟨"db2", 3306⟩]) scaledOut).map
      (·.rows) = some [PlanContext.syncedNode "db2", PlanContext.syncedNode "db1",
        PlanContext.syncedNode "db3"] := by cbv
  have hfound : (result? ((reconciler none).survey degradedRequest.seeds) scaledOut).map
      (·.health ⟨"db1", 3306⟩) = some .routable := by cbv
  have hok : (result? ((reconciler none).reconcile degradedRequest) scaledOut).map
      Report.writer = some (some ⟨"db1", 3306⟩) := by cbv
  obtain ⟨members, hmembers, hrows⟩ := Option.map_eq_some_iff.1 hfirst
  obtain ⟨members', hmembers', hrows'⟩ := Option.map_eq_some_iff.1 hsecond
  obtain ⟨health, hhealth, hdb1⟩ := Option.map_eq_some_iff.1 hfound
  obtain ⟨report, hreport, hwriter⟩ := Option.map_eq_some_iff.1 hok
  obtain ⟨e, hm⟩ := exists_of_result? hmembers
  obtain ⟨e', hm'⟩ := exists_of_result? hmembers'
  obtain ⟨d₀, hsurvey⟩ := exists_of_result? hhealth
  obtain ⟨d₁, hpass⟩ := exists_of_result? hreport
  have hsame : members'.rows.Perm members.rows := by
    rw [hrows, hrows']
    exact List.Perm.swap _ _ _
  have hstays : ∀ found : HealthMap, found.health ⟨"db1", 3306⟩ = .routable →
      (degradedRequest.context found).CanStay scaledOut.store.backends ⟨"db1", 3306⟩ :=
    fun found hroutable => ⟨hroutable, rfl, Backend.new 10 ⟨"db1", 3306⟩ .writer, rfl, rfl, rfl⟩
  have hplanned : ((degradedRequest.context PlanContext.threeSynced.health).plan
      scaledOut.store.backends).writer = some ⟨"db1", 3306⟩ := by decide
  obtain ⟨hplans, hpasses⟩ := probe_order_moves_no_writer degradedRequest hne
  obtain ⟨⟨w, hw, hw'⟩, -⟩ := hplans PlanContext.threeSynced.health secondFirst hd hperm
    scaledOut.store.backends _ (hstays PlanContext.threeSynced.health (by decide))
  obtain ⟨hinstead, -, hexists⟩ := hpasses none scaledOut [⟨"db2", 3306⟩] hanswers members members'
    e e' hm hm' hsame health d₀ _ hsurvey (hstays health hdb1) report d₁ hpass
  obtain ⟨report', d₂, hother⟩ := hexists rfl
  obtain ⟨hkept, -⟩ := hinstead report' d₂ hother
  refine ⟨hne, hd, hperm, ?_, hanswers, report', d₂, hother, hkept.trans hwriter⟩
  rw [hw', ← hw, hplanned]

end Deployment

end SingleWriter
