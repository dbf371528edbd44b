import SingleWriter.Proofs.Runs

/-!
# Cutover

A writer is taken over without two writers in between. Whatever part of its writes a pass
has made, a writer row is online only where it was online before or where the plan puts
the writer, and a writer that has just come online is alone. A pass that stops at some
write and reloads therefore shows the router no more online writers than there were,
and one where there was none.
-/

set_option autoImplicit false

namespace SingleWriter

open SingleWriter.Action

namespace PlanContext

variable (ctx : PlanContext) {current : BackendSet} {done : List Mutation} {a : Addr}

theorem onlineAt_written (hne : ctx.writerGroup ≠ ctx.readerGroup)
    (hdone : done <+: BackendSet.diff current (ctx.plan current).backends ctx.writerGroup)
    (ha : (BackendSet.written done current).OnlineAt ctx.writerGroup a) :
    current.OnlineAt ctx.writerGroup a ∨ (ctx.plan current).writer = some a := by
  rcases ctx.onlineAt_written_cases hne (fun _ => rfl) hdone with h | h
  · exact .inl (h a ha)
  · exact .inr (h a ha)

/-- A writer that was not online before is online alone. -/
theorem addr_onlineIn_written (hne : ctx.writerGroup ≠ ctx.readerGroup)
    (hdone : done <+: BackendSet.diff current (ctx.plan current).backends ctx.writerGroup)
    (hw : (ctx.plan current).writer = some a) (hold : ¬ current.OnlineAt ctx.writerGroup a)
    (hnew : (BackendSet.written done current).OnlineAt ctx.writerGroup a) :
    ((BackendSet.written done current).onlineIn ctx.writerGroup).map Backend.addr = [a] := by
  rcases ctx.onlineAt_written_cases hne (fun _ => rfl) hdone with h | h
  · exact absurd (h a hnew) hold
  · apply BackendSet.addr_onlineIn_eq_toList (w := some a)
    intro b
    constructor
    · intro hb
      rw [← hw, h b hb]
    · intro hb
      cases hb
      exact hnew

end PlanContext

namespace Watched

variable (monitor : Option Credentials)

theorem length_onlineIn_published_reconcile {req : PassRequest}
    (hne : req.writerGroup ≠ req.readerGroup) (w : Watched) {t : BackendSet}
    (ht : t ∈ (stateAfter ((reconciler monitor).reconcile req) w).published) :
    t ∈ w.published ∨
      (t.onlineIn req.writerGroup).length ≤
        max 1 ((table w).onlineIn req.writerGroup).length := by
  have hrows := @Reconciler.length_onlineIn_stateAfter_reconcile _ (reconciler monitor) table req
    tabled_admin spares_nodes hne w
  rcases publishes_reconcile monitor req w with hp | hp
  · rw [hp] at ht
    exact .inl ht
  · rw [hp, List.mem_append, List.mem_singleton] at ht
    rcases ht with ht | rfl
    · exact .inl ht
    · exact .inr hrows

/-- After any prefix of the writes of a pass every online writer was online before or is
the planned one, and a planned writer that was not online before is the only one. A pass,
at whatever write it ends, leaves and publishes at most one online writer, or as many as
there were. -/
theorem pass_breaks_before_making (req : PassRequest) (hne : req.writerGroup ≠ req.readerGroup) :
    (∀ (health : HealthMap) (current : BackendSet) (done : List Mutation),
      done <+: BackendSet.diff current ((req.context health).plan current).backends
        req.writerGroup →
      (∀ b ∈ (BackendSet.written done current).onlineIn req.writerGroup,
        current.OnlineAt req.writerGroup b.addr ∨
          ((req.context health).plan current).writer = some b.addr) ∧
      (∀ w, ((req.context health).plan current).writer = some w →
        ¬ current.OnlineAt req.writerGroup w →
        (BackendSet.written done current).OnlineAt req.writerGroup w →
        ((BackendSet.written done current).onlineIn req.writerGroup).map Backend.addr = [w]) ∧
      ((BackendSet.written done current).onlineIn req.writerGroup).length ≤
        max 1 (current.onlineIn req.writerGroup).length) ∧
    (∀ (monitor : Option Credentials) (w : Watched),
      ((table (stateAfter ((reconciler monitor).reconcile req) w)).onlineIn
          req.writerGroup).length ≤ max 1 ((table w).onlineIn req.writerGroup).length ∧
      ∀ t ∈ (stateAfter ((reconciler monitor).reconcile req) w).published,
        t ∈ w.published ∨ (t.onlineIn req.writerGroup).length ≤
          max 1 ((table w).onlineIn req.writerGroup).length) := by
  constructor
  · intro health current done hdone
    refine ⟨?_, ?_, ?_⟩
    · intro b hb
      apply (req.context health).onlineAt_written hne hdone
      exact ⟨b, BackendSet.mem_onlineIn.1 hb⟩
    · intro w hw hold hnew
      exact (req.context health).addr_onlineIn_written hne hdone hw hold hnew
    · exact (req.context health).length_onlineIn_written hne (fun _ => rfl) hdone
  · intro monitor w
    constructor
    · exact Reconciler.length_onlineIn_stateAfter_reconcile tabled_admin spares_nodes hne w
    · intro t ht
      exact length_onlineIn_published_reconcile monitor hne w ht

/-- The first member is blacklisted, so that its writer is replaced. -/
def failoverRequest : PassRequest where
  seeds := [⟨"db2", 3306⟩]
  blacklist := ⟨[⟨"db1", 3306⟩]⟩

/-- The store gives way after the second of the four writes of the failover. -/
def interrupted : Watched where
  cluster := Cluster.ofNodes [PlanContext.syncedNode "db1", PlanContext.syncedNode "db2"]
  store :=
    { backends := Table.ofList [Backend.new 10 ⟨"db1", 3306⟩ .writer,
        Backend.new 10 ⟨"db2", 3306⟩ .none .shunned]
      writesLeft := some 2 }
  published := []

def failoverWrites : List Mutation :=
  BackendSet.diff (table interrupted) (PlanContext.threeSynced.plan (table interrupted)).backends 10

theorem pass_breaks_before_making_of_failover :
    failoverRequest.writerGroup ≠ failoverRequest.readerGroup ∧
    (BackendSet.written (failoverWrites.take 3) (table interrupted)).OnlineAt 10 ⟨"db2", 3306⟩ ∧
    ((BackendSet.written (failoverWrites.take 3) (table interrupted)).onlineIn 10).map
      Backend.addr = [⟨"db2", 3306⟩] ∧
    (stateAfter ((reconciler none).reconcile failoverRequest) interrupted).published.length = 1 ∧
    ∀ t ∈ (stateAfter ((reconciler none).reconcile failoverRequest) interrupted).published,
      (t.onlineIn 10).length ≤ 1 := by
  have hne : failoverRequest.writerGroup ≠ failoverRequest.readerGroup := by decide
  obtain ⟨hplan, hpass⟩ := pass_breaks_before_making failoverRequest hne
  have hold : ¬ (table interrupted).OnlineAt 10 ⟨"db2", 3306⟩ := by
    rw [← BackendSet.mem_addr_onlineIn]
    decide
  have honline : (BackendSet.written (failoverWrites.take 3) (table interrupted)).OnlineAt 10
      ⟨"db2", 3306⟩ := ⟨Backend.new 10 ⟨"db2", 3306⟩ .writer, by decide, by decide⟩
  refine ⟨hne, honline, ?_, by cbv, ?_⟩
  · exact (hplan PlanContext.threeSynced.health (table interrupted) _
      (List.take_prefix 3 _)).2.1 ⟨"db2", 3306⟩ (by decide) hold honline
  · intro t ht
    have hone : ((table interrupted).onlineIn failoverRequest.writerGroup).length ≤ 1 := by decide
    rcases (hpass none interrupted).2 t ht with h | h
    · cases h
    · exact h.trans (max_le le_rfl hone)

end Watched

end SingleWriter
