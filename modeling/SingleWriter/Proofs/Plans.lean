import SingleWriter.Proofs.Readers

/-!
# Plans

The plan is the elected set after the reader stages. In its writer hostgroup exactly the
row of the writer is online, which holds for whatever rows the pass started from. A row
of the plan is a reworked row of the current set or a new row of one of the two
hostgroups.
-/

set_option autoImplicit false

namespace SingleWriter.PlanContext

variable (ctx : PlanContext) {current : BackendSet} {g : UInt32} {a : Addr}

theorem backends_plan (current : BackendSet) :
    (ctx.plan current).backends = ctx.served (ctx.elect current).1 (ctx.plan current).writer :=
  rfl

theorem reshaped_plan (current : BackendSet) :
    BackendSet.Reshaped [ctx.writerGroup, ctx.readerGroup] current (ctx.plan current).backends :=
  (ctx.reshaped_elect current).trans (ctx.reshaped_served _ _)

theorem find?_plan_writer (hne : ctx.writerGroup ≠ ctx.readerGroup) (current : BackendSet)
    (a : Addr) :
    (ctx.plan current).backends.find? ctx.writerGroup a =
      (ctx.elect current).1.find? ctx.writerGroup a := by
  rw [backends_plan, ctx.find?_served_outside hne _ hne]

theorem find?_plan_other (hne : ctx.writerGroup ≠ ctx.readerGroup)
    (hw : g ≠ ctx.writerGroup) (hr : g ≠ ctx.readerGroup) :
    (ctx.plan current).backends.find? g a = current.find? g a := by
  rw [backends_plan, ctx.find?_served_outside hne _ hr, ctx.find?_elect_other hne hw hr]

/-- The writer row of a node that is not the writer is at rest, and none is added. -/
theorem find?_plan_of_ne (hne : ctx.writerGroup ≠ ctx.readerGroup)
    (h : (ctx.plan current).writer ≠ some a) :
    (ctx.plan current).backends.find? ctx.writerGroup a =
      (current.find? ctx.writerGroup a).map ctx.rest := by
  rw [ctx.find?_plan_writer hne, ctx.find?_elect_of_ne hne h]

theorem find?_plan_self (hne : ctx.writerGroup ≠ ctx.readerGroup)
    (h : (ctx.plan current).writer = some a) :
    ∃ b, (ctx.plan current).backends.find? ctx.writerGroup a = some b ∧ b.isOnline = true ∧
      b.isPinned = false := by
  rw [ctx.find?_plan_writer hne]
  exact ctx.find?_elect_self hne h

/-- A node has an online writer row exactly when it is the writer. -/
theorem onlineAt_plan_iff (hne : ctx.writerGroup ≠ ctx.readerGroup)
    (current : BackendSet) (a : Addr) :
    (ctx.plan current).backends.OnlineAt ctx.writerGroup a ↔
      (ctx.plan current).writer = some a := by
  constructor
  · rintro ⟨b, hb, ho⟩
    by_contra h
    rw [ctx.find?_plan_of_ne hne h] at hb
    obtain ⟨c, -, rfl⟩ := Option.map_eq_some_iff.1 hb
    rw [rest, Backend.isOnline_withStatus, decide_eq_true_eq] at ho
    exact ctx.restingStatus_ne_online c ho
  · intro h
    obtain ⟨b, hb, ho, -⟩ := ctx.find?_plan_self hne h
    exact ⟨b, hb, ho⟩

theorem addr_onlineIn_plan (hne : ctx.writerGroup ≠ ctx.readerGroup) (current : BackendSet) :
    ((ctx.plan current).backends.onlineIn ctx.writerGroup).map Backend.addr =
      (ctx.plan current).writer.toList :=
  BackendSet.addr_onlineIn_eq_toList (ctx.onlineAt_plan_iff hne current)

theorem length_onlineIn_plan (hne : ctx.writerGroup ≠ ctx.readerGroup) (current : BackendSet) :
    ((ctx.plan current).backends.onlineIn ctx.writerGroup).length =
      (ctx.plan current).writer.toList.length := by
  rw [← ctx.addr_onlineIn_plan hne, List.length_map]

/-- An online row of the plan is at a routable node, or it is the reader row of a serving
donor that is the last companion of the writer. -/
theorem online_plan_cases (hne : ctx.writerGroup ≠ ctx.readerGroup) (hd : ctx.health.Distinct)
    (hg : g ∈ [ctx.writerGroup, ctx.readerGroup]) {b : Backend}
    (hb : (ctx.plan current).backends.find? g a = some b) (ho : b.isOnline = true) :
    ctx.health.health a = .routable ∨
      (g = ctx.readerGroup ∧ ctx.health.isServingDonor a = true ∧
        ∃ w, (ctx.plan current).writer = some w ∧
          (ctx.plan current).backends.lastCompanion? w = some a) := by
  have hwriter : (ctx.plan current).writer = some a → ctx.health.health a = .routable :=
    fun h => ctx.routable_of_elect hne hd h
  rw [List.mem_pair] at hg
  rcases hg with rfl | rfl
  · exact .inl (hwriter ((ctx.onlineAt_plan_iff hne current a).1 ⟨b, hb, ho⟩))
  · rcases ctx.online_served_cases hne hd hb ho with h | h | ⟨w, hw, hdonor, hlast⟩
    · exact .inl (hwriter h)
    · exact .inl h
    · exact .inr ⟨rfl, hdonor, w, hw, hlast⟩

/-- Whatever rows a pass starts from, at most one writer is online in its plan: the node
that the plan names, which is routable and not pinned there. No writer is named only
where every routable address is pinned, so that one routable address that is pinned
nowhere is enough for exactly one writer. -/
theorem plan_single_writer (hne : ctx.writerGroup ≠ ctx.readerGroup)
    (hd : ctx.health.Distinct) (current : BackendSet) :
    ((ctx.plan current).backends.onlineIn ctx.writerGroup).length ≤ 1 ∧
    (∀ w, (ctx.plan current).writer = some w ↔
      ∃ b ∈ (ctx.plan current).backends.onlineIn ctx.writerGroup, b.addr = w) ∧
    (∀ w, (ctx.plan current).writer = some w →
      ctx.health.health w = .routable ∧
        ∃ b, (ctx.plan current).backends.find? ctx.writerGroup w = some b ∧
          b.isPinned = false) ∧
    ((ctx.plan current).writer = none →
      ∀ a, ctx.health.health a = .routable → current.isPinned a = true) ∧
    ((∃ a, ctx.health.health a = .routable ∧ current.isPinned a = false) →
      ((ctx.plan current).backends.onlineIn ctx.writerGroup).length = 1) := by
  have hlength := ctx.length_onlineIn_plan hne current
  have hnone : (ctx.plan current).writer = none →
      ∀ a, ctx.health.health a = .routable → current.isPinned a = true := by
    intro h a ha
    exact ctx.isPinned_of_elect_eq_none h (HealthMap.mem_candidates_of_health ha)
  refine ⟨?_, ?_, ?_, hnone, ?_⟩
  · rw [hlength]
    cases (ctx.plan current).writer <;> simp
  · intro w
    rw [← ctx.onlineAt_plan_iff hne, ← BackendSet.mem_addr_onlineIn, List.mem_map]
  · intro w hw
    obtain ⟨b, hb, -, hp⟩ := ctx.find?_plan_self hne hw
    exact ⟨ctx.routable_of_elect hne hd hw, b, hb, hp⟩
  · rintro ⟨a, ha, hp⟩
    rw [hlength]
    cases hw : (ctx.plan current).writer with
    | none =>
      rw [hnone hw a ha] at hp
      cases hp
    | some w => rfl

def syncedNode (host : String) : Node where
  addr := ⟨host, 3306⟩
  clusterName := "galera"
  stateId := ⟨0⟩
  isPrimary := true
  state := .synced
  rejectsQueries := false
  rejectsAsDonor := false

def syncedProbe (host : String) : Probe := ⟨⟨host, 3306⟩, .ok (syncedNode host)⟩

def threeSynced : PlanContext where
  writerGroup := 10
  readerGroup := 11
  health := HealthMap.ofProbes .synced [syncedProbe "db1", syncedProbe "db2", syncedProbe "db3"]
  blacklist := ⟨[⟨"db1", 3306⟩]⟩

def splitBrain : BackendSet :=
  Table.ofList [Backend.new 10 ⟨"db1", 3306⟩ .writer, Backend.new 10 ⟨"db2", 3306⟩ .writer,
    (Backend.new 10 ⟨"db3", 3306⟩ .writer).withOverride (some .offlineHard)]

theorem plan_single_writer_of_splitBrain :
    threeSynced.writerGroup ≠ threeSynced.readerGroup ∧ threeSynced.health.Distinct ∧
      ((threeSynced.plan splitBrain).backends.onlineIn 10).length = 1 := by
  have hne : threeSynced.writerGroup ≠ threeSynced.readerGroup := by decide
  have hd : threeSynced.health.Distinct := by
    unfold HealthMap.Distinct
    decide
  have hfree : ∃ a, threeSynced.health.health a = .routable ∧ splitBrain.isPinned a = false :=
    ⟨⟨"db2", 3306⟩, by decide, by decide⟩
  exact ⟨hne, hd, (plan_single_writer threeSynced hne hd splitBrain).2.2.2.2 hfree⟩

end SingleWriter.PlanContext
