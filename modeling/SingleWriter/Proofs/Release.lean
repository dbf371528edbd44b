import SingleWriter.Proofs.Overrides
import SingleWriter.Proofs.PartialPasses
import SingleWriter.Proofs.SecondPass

/-!
# Routable nodes in service

A plan leaves no routable node idle that is not pinned: the node is the writer, or it reads.
What its rows were before does not matter, because a writer row beside the writer is at rest
and no reason to go without a reader row. An operator who overrides a pin therefore brings
the node back with the next pass.
-/

set_option autoImplicit false

namespace SingleWriter

open SingleWriter.Action

namespace BackendSet

def Employs (s : BackendSet) (writerGroup readerGroup : UInt32) (writer : Option Addr)
    (a : Addr) : Prop :=
  (writer = some a ∧ s.OnlineAt writerGroup a) ∨ s.OnlineAt readerGroup a

theorem isPinned_eq_false_iff {s : BackendSet} {a : Addr} :
    s.isPinned a = false ↔
      ∀ b ∈ s.rows, b.addr = a → b.annotation.override ≠ some .offlineHard := by
  simp [isPinned, Backend.isPinned]

end BackendSet

/-! ## Plans -/

namespace PlanContext

variable (ctx : PlanContext) {current : BackendSet} {a : Addr}

/-- Beside the writer, a routable node has no writer row in service. -/
theorem isLiveWriter_plan_of_ne (hne : ctx.writerGroup ≠ ctx.readerGroup)
    (hw : (ctx.plan current).writer ≠ some a) (hh : ctx.health.health a = .routable) :
    ctx.isLiveWriter (ctx.plan current).backends a = false := by
  rw [isLiveWriter, ctx.find?_plan_of_ne hne hw]
  cases hold : current.find? ctx.writerGroup a with
  | none => rfl
  | some old =>
    rw [← (BackendSet.find?_eq_some_iff.1 hold).2.2] at hh
    rw [Option.map_some, Option.any_some, rest, ctx.restingStatus_of_routable hh]
    rfl

theorem employs_plan (hne : ctx.writerGroup ≠ ctx.readerGroup) (hd : ctx.health.Distinct)
    (hh : ctx.health.health a = .routable) (hp : current.isPinned a = false) :
    (ctx.plan current).backends.Employs ctx.writerGroup ctx.readerGroup
      (ctx.plan current).writer a := by
  by_cases hw : (ctx.plan current).writer = some a
  · exact .inl ⟨hw, (ctx.onlineAt_plan_iff hne current a).2 hw⟩
  · have hpin : (ctx.plan current).backends.isPinned a = false := by
      rw [(ctx.reshaped_plan current).isPinned_eq, hp]
    -- Of the three reasons to go without a reader row none is left.
    have hlacks : ctx.lacksReader (ctx.plan current).backends a = false :=
      ctx.lacksReader_plan hne (HealthMap.mem_candidates_of_health hh)
    rw [lacksReader, ctx.isLiveWriter_plan_of_ne hne hw hh, hpin, Bool.or_false, Bool.or_false,
      Bool.not_eq_false', Option.isSome_iff_exists] at hlacks
    obtain ⟨b, hb⟩ := hlacks
    have hbpin := BackendSet.isPinned_eq_false_of_find? hpin hb
    obtain ⟨honline, -⟩ := ctx.plan_reader_routable hne hd hw hb hbpin hh
    exact .inr ⟨b, hb, Backend.isOnline_iff.2 honline⟩

end PlanContext

/-! ## Passes -/

namespace Reconciler

variable {σ : Type} {r : Reconciler σ} {table : σ → BackendSet} {req : PassRequest}
  {health : HealthMap} {report : Report} {groups : List UInt32} {addr a : Addr}
  {status : Option Status} {n : Nat} {s t u : σ}

/-- A pass that succeeds leaves no node idle that it found routable and not pinned. -/
theorem employs_of_reconcile (hadmin : r.admin.Tabled table) (hnodes : r.nodes.Spares table)
    (hne : req.writerGroup ≠ req.readerGroup)
    (hp : ∀ g ∈ [req.writerGroup, req.readerGroup], ∀ b,
      (table s).find? g a = some b → b.isPinned = false)
    (hsurvey : r.survey req.seeds s = .ok health u) (hh : health.health a = .routable)
    (h : r.reconcile req s = .ok report t) :
    (table t).Employs req.writerGroup req.readerGroup report.writer a := by
  obtain ⟨health', u', current, hsurvey', hwriter, hcurrent, hlive⟩ :=
    planned_of_reconcile hadmin hne h
  rw [hsurvey] at hsurvey'
  cases hsurvey'
  have hsame : table u = table s := (keeps_survey hnodes req.seeds).ok hsurvey
  have hfree : current.isPinned a = false := by
    by_contra hpin
    obtain ⟨g, b, hb, hbp⟩ := BackendSet.isPinned_eq_true_iff.1 (by simpa using hpin)
    rw [BackendSet.find?, hcurrent, hsame] at hb
    split at hb
    · rw [hp g ‹_› b hb] at hbp
      cases hbp
    · cases hb
  have hd : (req.context health).health.Distinct := distinct_of_survey hsurvey
  have honline : ∀ g ∈ [req.writerGroup, req.readerGroup],
      ((req.context health).plan current).backends.OnlineAt g a →
        (table t).OnlineAt g a := by
    rintro g hg ⟨b, hb, ho⟩
    exact ⟨b, (hlive.online_iff hg ho).2 hb, ho⟩
  rw [hwriter]
  rcases PlanContext.employs_plan _ hne hd hh hfree with ⟨hw, hrow⟩ | hrow
  · exact .inl ⟨hw, honline _ (by simp) hrow⟩
  · exact .inr (honline _ (by simp) hrow)

/-- The command ends with a reload. -/
theorem reload_of_setOverride (h : r.setOverride groups addr status s = .ok n t) :
    ∃ u, r.admin.reload u = .ok () t := by
  obtain ⟨current, _, -, h⟩ := bind_eq_ok.1 h
  obtain ⟨_, v, -, h⟩ := bind_eq_ok.1 h
  split at h
  · obtain ⟨_, _, hthrow, -⟩ := bind_eq_ok.1 h
    exact absurd hthrow throw_ne_ok
  · obtain ⟨_, w, hw, h⟩ := bind_eq_ok.1 h
    obtain ⟨-, rfl⟩ := pure_eq_ok.1 h
    exact ⟨v, hw⟩

end Reconciler

namespace Deployment

variable {monitor : Option Credentials} {req : PassRequest} {d d' : Deployment} {a : Addr}
  {status : Option Status} {n : Nat}

/-- The command that overrides a pin leaves none in the hostgroups. -/
theorem isPinned_of_setOverride (hne : req.writerGroup ≠ req.readerGroup)
    (hstatus : status ≠ some .offlineHard)
    (h : (reconciler monitor).setOverride [req.writerGroup, req.readerGroup] a status d =
      .ok n d') :
    ∀ g ∈ [req.writerGroup, req.readerGroup], ∀ b,
      d'.store.backends.find? g a = some b → b.isPinned = false := by
  intro g hg b hb
  obtain ⟨hrows, -⟩ := Reconciler.find?_of_setOverride tabled_memoryAdmin (by simp [hne]) h
  rw [hrows g hg] at hb
  obtain ⟨old, -, rfl⟩ := Option.map_eq_some_iff.1 hb
  exact decide_eq_false hstatus

theorem up_of_reconcile {report : Report}
    (h : (reconciler monitor).reconcile req d = .ok report d') : d.store.isDown = false := by
  obtain ⟨health, u, current, v, hsurvey, hload, -⟩ := Reconciler.reconcile_eq_ok h
  rw [← store_of_survey hsurvey]
  by_contra hdown
  have hrefused := load_of_down monitor (by simpa using hdown) req.writerGroup [req.readerGroup]
  rw [hload] at hrefused
  cases hrefused

/-- With the store up and willing, a pass whose survey succeeds does too. -/
theorem exists_reconcile (hne : req.writerGroup ≠ req.readerGroup) {health : HealthMap}
    (hsurvey : (reconciler monitor).survey req.seeds d = .ok health d')
    (hup : d.store.isDown = false) (hleft : d.store.writesLeft = none) :
    ∃ report d'', (reconciler monitor).reconcile req d = .ok report d'' := by
  obtain ⟨current, -, hok | ⟨k, -, hlimit, -⟩⟩ := reconcile_of_up hne hsurvey hup
  · exact ⟨_, _, hok⟩
  · rw [hleft] at hlimit
    cases hlimit

/-- No plan leaves a routable node idle that no row pins: it is the writer, or it reads.
When the operator clears the override of a node, or sets another than `OFFLINE_HARD`, the
next pass brings it back if it finds it routable, whatever its rows were. The pass succeeds
as long as the store takes its writes. -/
theorem routable_node_returns (req : PassRequest) (hne : req.writerGroup ≠ req.readerGroup) :
    (∀ health : HealthMap, health.Distinct → ∀ (current : BackendSet) (a : Addr),
      health.health a = .routable →
      (∀ b ∈ current.rows, b.addr = a → b.annotation.override ≠ some .offlineHard) →
      ((req.context health).plan current).backends.Employs req.writerGroup req.readerGroup
        ((req.context health).plan current).writer a) ∧
    (∀ (monitor : Option Credentials) (d d₁ : Deployment) (a : Addr) (status : Option Status)
      (n : Nat), status ≠ some .offlineHard →
      (reconciler monitor).setOverride [req.writerGroup, req.readerGroup] a status d = .ok n d₁ →
      ∀ health d₂, (reconciler monitor).survey req.seeds d₁ = .ok health d₂ →
        health.health a = .routable →
        (∀ report d₃, (reconciler monitor).reconcile req d₁ = .ok report d₃ →
          d₃.store.backends.Employs req.writerGroup req.readerGroup report.writer a) ∧
        (d₁.store.writesLeft = none →
          ∃ report d₃, (reconciler monitor).reconcile req d₁ = .ok report d₃)) := by
  constructor
  · intro health hd current a hh hp
    exact (req.context health).employs_plan hne hd hh (BackendSet.isPinned_eq_false_iff.2 hp)
  · intro monitor d d₁ a status n hstatus hset health d₂ hsurvey hh
    obtain ⟨_, hreload⟩ := Reconciler.reload_of_setOverride hset
    have hup : d₁.store.isDown = false := serves_memoryAdmin.of_reload hreload
    have hfree := isPinned_of_setOverride hne hstatus hset
    have hadmin : (reconciler monitor).admin.Tabled fun d => d.store.backends := tabled_memoryAdmin
    have hnodes : (reconciler monitor).nodes.Spares fun d => d.store.backends :=
      NodeAccess.spares_within fun _ _ => rfl
    refine ⟨fun report d₃ hpass => ?_, exists_reconcile hne hsurvey hup⟩
    have hserves := Reconciler.employs_of_reconcile hadmin hnodes hne hfree hsurvey hh hpass
    exact hserves

def heldOut : Deployment where
  cluster := Cluster.ofNodes [PlanContext.syncedNode "db1", PlanContext.syncedNode "db2"]
  store := { backends := Table.ofList [
    (Backend.new 10 ⟨"db1", 3306⟩ .writer .offlineHard).withOverride (some .offlineHard),
    (Backend.new 11 ⟨"db1", 3306⟩ .reader .offlineHard).withOverride (some .offlineHard),
    Backend.new 10 ⟨"db2", 3306⟩ .writer] }
  network := Sql.Network.offline []

theorem routable_node_returns_of_heldOut :
    degradedRequest.writerGroup ≠ degradedRequest.readerGroup ∧
    PlanContext.threeSynced.health.Distinct ∧
    ((degradedRequest.context PlanContext.threeSynced.health).plan
      heldOut.store.backends).backends.Employs 10 11 (some ⟨"db2", 3306⟩) ⟨"db3", 3306⟩ ∧
    ∃ d₁ report d₃, (reconciler none).setOverride [10, 11] ⟨"db1", 3306⟩ none heldOut =
        .ok 2 d₁ ∧
      (reconciler none).reconcile degradedRequest d₁ = .ok report d₃ ∧
      report.writer = some ⟨"db2", 3306⟩ ∧
      d₃.store.backends.OnlineAt 11 ⟨"db1", 3306⟩ := by
  have hne : degradedRequest.writerGroup ≠ degradedRequest.readerGroup := by decide
  have hd : PlanContext.threeSynced.health.Distinct := by
    unfold HealthMap.Distinct
    decide
  have hplanned : ((degradedRequest.context PlanContext.threeSynced.health).plan
      heldOut.store.backends).writer = some ⟨"db2", 3306⟩ := by decide
  have hset : result? ((reconciler none).setOverride [10, 11] ⟨"db1", 3306⟩ none) heldOut =
      some 2 := by cbv
  have hfound : (result? ((reconciler none).survey degradedRequest.seeds)
      (stateAfter ((reconciler none).setOverride [10, 11] ⟨"db1", 3306⟩ none) heldOut)).map
        (·.health ⟨"db1", 3306⟩) = some .routable := by cbv
  have hwriter : (result? ((reconciler none).reconcile degradedRequest)
      (stateAfter ((reconciler none).setOverride [10, 11] ⟨"db1", 3306⟩ none) heldOut)).map
        Report.writer = some (some ⟨"db2", 3306⟩) := by cbv
  obtain ⟨d₁, hset⟩ := exists_of_result? hset
  rw [stateAfter_of_ok hset] at hfound hwriter
  obtain ⟨health, hhealth, hdb1⟩ := Option.map_eq_some_iff.1 hfound
  obtain ⟨d₂, hsurvey⟩ := exists_of_result? hhealth
  obtain ⟨report, hreport, hdb2⟩ := Option.map_eq_some_iff.1 hwriter
  obtain ⟨d₃, hpass⟩ := exists_of_result? hreport
  obtain ⟨hplans, hpasses⟩ := routable_node_returns degradedRequest hne
  have hfilled := hplans _ hd heldOut.store.backends ⟨"db3", 3306⟩ (by decide) (by decide)
  rw [hplanned] at hfilled
  have hserves := (hpasses none heldOut d₁ _ none 2 (by simp) hset health d₂ hsurvey hdb1).1
    report d₃ hpass
  rw [hdb2] at hserves
  refine ⟨hne, hd, hfilled, d₁, report, d₃, hset, hpass, hdb2, ?_⟩
  rcases hserves with ⟨hother, -⟩ | hserves
  · exact absurd hother (by decide)
  · exact hserves

end Deployment

end SingleWriter
