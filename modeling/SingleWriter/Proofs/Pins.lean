import SingleWriter.Proofs.WriterReads

/-!
# Pinned rows

A pinned row is out of service in every plan but for one: the writer's own reader row is
passed over when the readers follow their nodes, and is looked at again only where the
writer has to serve reads or is retired. Where another node serves reads and no third row
is in service, a pinned row that is found in service stays so.
-/

set_option autoImplicit false

namespace SingleWriter.PlanContext

variable (ctx : PlanContext) {s current : BackendSet} {a o w : Addr} {b : Backend}

/-! ## The elected set -/

/-- A recovering node that is chosen without returning is pinned nowhere. -/
theorem returner?_of_elect (hne : ctx.writerGroup ≠ ctx.readerGroup)
    (h : (ctx.elect s).2 = some a) (hm : a ∈ ctx.recovering s) (hp : s.isPinned a = true) :
    ctx.returner? s = some a := by
  rw [elect_eq] at h
  rcases ctx.find?_electFrom_self h with ⟨c, hc, ho, -⟩ | ⟨-, hmem, -⟩
  · by_contra hback
    obtain ⟨row, hrow, hr⟩ := ctx.mem_recovering.1 hm
    rw [ctx.find?_recovered_writer hne, hrow, Option.map_some, if_neg hback,
      ctx.not_staysOnline_of_isRecovering hr] at hc
    cases hc
    rw [if_neg (by simp), rest, Backend.isOnline_withStatus, decide_eq_true_eq] at ho
    exact ctx.restingStatus_ne_online row ho
  · rw [mem_eligible, (ctx.reshaped_recovered s).isPinned_eq, hp] at hmem
    cases hmem.2

/-- Election does not touch the pinned reader row of the node that it elects. -/
theorem find?_elect_reader_of_pinned (hne : ctx.writerGroup ≠ ctx.readerGroup)
    (h : (ctx.elect s).2 = some a) (hb : s.find? ctx.readerGroup a = some b)
    (hp : b.isPinned = true) : (ctx.elect s).1.find? ctx.readerGroup a = some b := by
  have hpinned : s.isPinned a = true :=
    BackendSet.isPinned_eq_true_iff.2 ⟨ctx.readerGroup, b, hb, hp⟩
  rw [ctx.find?_elect_reader hne, if_neg, hb]
  rintro ⟨hm, hback⟩
  exact hback (ctx.returner?_of_elect hne h hm hpinned)

/-- The node has a reader row without a pin once the recovering nodes have become readers. -/
def keepsReader (s : BackendSet) (o : Addr) : Bool :=
  match s.find? ctx.readerGroup o with
  | some b => !b.isPinned
  | none => o ∈ ctx.recovering s

theorem keepsReader_iff (hne : ctx.writerGroup ≠ ctx.readerGroup)
    (h : (ctx.elect s).2 ≠ some o) :
    ctx.keepsReader s o = true ↔
      ∃ b, (ctx.elect s).1.find? ctx.readerGroup o = some b ∧ b.isPinned = false := by
  have hback : ctx.returner? s ≠ some o := fun hr => h (ctx.elect_of_returner hne hr)
  rw [ctx.find?_elect_reader hne]
  simp only [keepsReader, ne_eq, hback, not_false_eq_true, and_true]
  cases hrow : s.find? ctx.readerGroup o with
  | none =>
    by_cases hm : o ∈ ctx.recovering s
    · simp [hm, servingReader, Backend.isPinned_new]
    · simp [hm]
  | some b =>
    by_cases hm : o ∈ ctx.recovering s
    · have hkept : (ctx.servingReader o (some b)).isPinned = b.isPinned := by
        rw [servingReader]
        split <;> rfl
      simp [hm, hkept]
    · simp [hm]

theorem readsElsewhere_elect_iff (hne : ctx.writerGroup ≠ ctx.readerGroup)
    (h : (ctx.elect s).2 = some w) :
    ctx.readsElsewhere (ctx.elect s).1 w = true ↔
      ∃ o, o ≠ w ∧ ctx.health.health o = .routable ∧ ctx.keepsReader s o = true := by
  have hnot : ∀ o, o ≠ w → (ctx.elect s).2 ≠ some o := by
    intro o ho ho'
    rw [h] at ho'
    exact ho (Option.some.inj ho').symm
  rw [readsElsewhere_iff]
  constructor
  · rintro ⟨o, b, ho, hb, hp, hh⟩
    exact ⟨o, ho, hh, (ctx.keepsReader_iff hne (hnot o ho)).2 ⟨b, hb, hp⟩⟩
  · rintro ⟨o, ho, hh, hk⟩
    obtain ⟨b, hb, hp⟩ := (ctx.keepsReader_iff hne (hnot o ho)).1 hk
    exact ⟨o, b, ho, hb, hp, hh⟩

/-! ## The planned set -/

/-- Where reads are served elsewhere, the writer's pinned reader row is as it was, unless it
is retired. -/
theorem find?_filled_of_pinned (hne : ctx.writerGroup ≠ ctx.readerGroup)
    (hw : (ctx.elect s).2 = some w) (hb : s.find? ctx.readerGroup w = some b)
    (hp : b.isPinned = true) :
    (ctx.filled (ctx.elect s).1 (some w)).find? ctx.readerGroup w =
      some (if ctx.readsElsewhere (ctx.elect s).1 w then b else b.withStatus .offlineHard) := by
  obtain ⟨row, hrow, ho, -⟩ := ctx.find?_elect_self hne hw
  rw [ctx.find?_filled_self hne (ctx.isLiveWriter_of_online hrow ho), find?_convergeReaders_self,
    ctx.find?_elect_reader_of_pinned hne hw hb hp, servingReader, if_pos hp]
  split <;> rfl

/-- A routable node that keeps a reader row has it in service. -/
theorem liveAt_filled_of_keepsReader (hne : ctx.writerGroup ≠ ctx.readerGroup)
    (hw : (ctx.elect s).2 = some w) (ho : o ≠ w) (hh : ctx.health.health o = .routable)
    (hk : ctx.keepsReader s o = true) :
    (ctx.filled (ctx.elect s).1 (some w)).LiveAt ctx.readerGroup o := by
  have hnot : some w ≠ some o := fun h => ho (Option.some.inj h).symm
  obtain ⟨b, hb, hp⟩ := (ctx.keepsReader_iff hne (by rwa [hw])).1 hk
  have hrow := ctx.find?_convergeReaders_of_ne (s := (ctx.elect s).1) hnot
  rw [hb, Option.map_some] at hrow
  rw [← (BackendSet.find?_eq_some_iff.1 hb).2.2] at hh
  refine ⟨ctx.followHealth b, ?_, ?_⟩
  · rw [filled, ctx.find?_fillReaders hne, if_neg, hrow]
    simp [lacksReader, hrow]
  · rw [ctx.followHealth_of_routable hp hh]
    rfl

/-- No third reader is in service before the last stages exactly when the plan has none
beside the writer and the other reader. -/
theorem length_liveIn_filled_le_two_iff (hw : (ctx.plan current).writer = some w) (ho : o ≠ w)
    (hself : (ctx.filled (ctx.elect current).1 (some w)).LiveAt ctx.readerGroup w)
    (hother : (ctx.filled (ctx.elect current).1 (some w)).LiveAt ctx.readerGroup o) :
    ((ctx.filled (ctx.elect current).1 (some w)).liveIn ctx.readerGroup).length ≤ 2 ↔
      ∀ c ∈ (ctx.plan current).backends.liveIn ctx.readerGroup, c.addr = w ∨ c.addr = o := by
  rw [← Nat.not_lt, BackendSet.two_lt_length_liveIn_iff hself hother (Ne.symm ho), backends_plan, hw]
  constructor
  · intro hno c hc
    by_contra hthird
    rw [not_or] at hthird
    have hlive := BackendSet.mem_addr_liveIn.1 (List.mem_map_of_mem hc)
    rw [ctx.liveAt_served_iff_of_ne (fun h => hthird.1 (Option.some.inj h).symm)] at hlive
    exact hno ⟨c.addr, hlive, hthird⟩
  · rintro hall ⟨z, hz, hzw, hzo⟩
    rw [← ctx.liveAt_served_iff_of_ne (fun h => hzw (Option.some.inj h).symm),
      ← BackendSet.mem_addr_liveIn] at hz
    obtain ⟨c, hc, rfl⟩ := List.mem_map.1 hz
    exact (hall c hc).elim hzw hzo

/-- The pinned reader row of the writer as it is planned. -/
theorem find?_plan_reader_of_pinned (hne : ctx.writerGroup ≠ ctx.readerGroup)
    (hd : ctx.health.Distinct) (hw : (ctx.plan current).writer = some w)
    (hb : current.find? ctx.readerGroup w = some b) (hp : b.isPinned = true) :
    (ctx.plan current).backends.find? ctx.readerGroup w =
      some (if ctx.readsElsewhere (ctx.elect current).1 w = true ∧
          ((ctx.filled (ctx.elect current).1 (some w)).liveIn ctx.readerGroup).length ≤ 2 then b
        else b.withStatus .offlineHard) := by
  have hfilled := ctx.find?_filled_of_pinned hne hw hb hp
  rw [backends_plan, hw, find?_served_self, hfilled]
  by_cases helse : ctx.readsElsewhere (ctx.elect current).1 w = true
  · have hkept : ctx.readsElsewhere (ctx.filled (ctx.elect current).1 (some w)) w = true :=
      ctx.readsElsewhere_of_reshaped (ctx.reshaped_filled _ _) helse
    rw [if_pos helse] at hfilled
    have hretires := ctx.retires_filled_iff hne hd (ctx.elect current).1 w
    simp only [hkept, and_true, BackendSet.LiveAt, hfilled, Option.some.injEq,
      exists_eq_left'] at hretires
    rw [if_pos helse]
    simp only [helse, true_and, hretires, ← Nat.not_lt, ite_not]
    -- Retiring leaves a removed row as it is.
    by_cases hlen : 2 < ((ctx.filled (ctx.elect current).1 (some w)).liveIn ctx.readerGroup).length
    · by_cases hr : b.isRemoved = false
      · simp [hlen, hr]
      · have hhard : b.status = .offlineHard := Backend.isRemoved_iff.1 (by simpa using hr)
        have hsame : b.withStatus .offlineHard = b := by rw [← hhard, Backend.withStatus]
        simp [hlen, hr, hsame]
    · simp [hlen]
  · simp [helse, Backend.withStatus_withStatus]

/-- The writer's pinned reader row that is in service is passed over where one other node
serves reads alone. -/
theorem passedOver_iff (hne : ctx.writerGroup ≠ ctx.readerGroup)
    (hw : (ctx.plan current).writer = some w) (hb : current.find? ctx.readerGroup w = some b)
    (hp : b.isPinned = true) (hr : b.isRemoved = false) :
    ctx.readsElsewhere (ctx.elect current).1 w = true ∧
        ((ctx.filled (ctx.elect current).1 (some w)).liveIn ctx.readerGroup).length ≤ 2 ↔
      ∃ o, o ≠ w ∧ ctx.health.health o = .routable ∧ ctx.keepsReader current o = true ∧
        ∀ c ∈ (ctx.plan current).backends.liveIn ctx.readerGroup, c.addr = w ∨ c.addr = o := by
  have helse_iff := ctx.readsElsewhere_elect_iff hne hw
  have hself : ctx.readsElsewhere (ctx.elect current).1 w = true →
      (ctx.filled (ctx.elect current).1 (some w)).LiveAt ctx.readerGroup w := by
    intro helse
    have hfilled := ctx.find?_filled_of_pinned hne hw hb hp
    rw [if_pos helse] at hfilled
    exact ⟨b, hfilled, hr⟩
  constructor
  · rintro ⟨helse, hlen⟩
    obtain ⟨o, ho, hh, hk⟩ := helse_iff.1 helse
    have hother := ctx.liveAt_filled_of_keepsReader hne hw ho hh hk
    exact ⟨o, ho, hh, hk,
      (ctx.length_liveIn_filled_le_two_iff hw ho (hself helse) hother).1 hlen⟩
  · rintro ⟨o, ho, hh, hk, hall⟩
    have helse := helse_iff.2 ⟨o, ho, hh, hk⟩
    have hother := ctx.liveAt_filled_of_keepsReader hne hw ho hh hk
    exact ⟨helse, (ctx.length_liveIn_filled_le_two_iff hw ho (hself helse) hother).2 hall⟩

/-- Every pinned row beside the writer's own reader row is out of service. -/
theorem status_of_pinned_of_ne (hne : ctx.writerGroup ≠ ctx.readerGroup)
    (hd : ctx.health.Distinct) (hb : b ∈ (ctx.plan current).backends.rows)
    (hg : b.hostgroup ∈ [ctx.writerGroup, ctx.readerGroup]) (hp : b.isPinned = true)
    (hself : ¬(b.hostgroup = ctx.readerGroup ∧ (ctx.plan current).writer = some b.addr)) :
    b.status = .offlineHard := by
  have hrow := BackendSet.find?_of_mem hb
  rw [List.mem_pair] at hg
  rcases hg with hg | hg
  · rw [hg] at hrow
    have hw : (ctx.plan current).writer ≠ some b.addr := by
      intro hw
      obtain ⟨c, hc, -, hfree⟩ := ctx.find?_plan_self hne hw
      rw [hrow] at hc
      cases hc
      rw [hp] at hfree
      cases hfree
    rw [ctx.status_plan_writer hne hrow, if_neg hw, if_neg]
    simp [hp]
  · rw [hg] at hrow
    have hw : (ctx.plan current).writer ≠ some b.addr := fun hw => hself ⟨hg, hw⟩
    obtain ⟨old, -, -, hpin, -, hold⟩ := ctx.exists_old_of_not_routable hne hd hw hrow (.inr hp)
    rw [hold, ctx.readerTarget_of_pinned _ (hpin.trans hp)]
    rfl

/-- A row that is planned with a pin had it before. -/
theorem exists_pinned_of_plan {g : UInt32}
    (hb : (ctx.plan current).backends.find? g a = some b) (hp : b.isPinned = true) :
    ∃ old, current.find? g a = some old ∧ old.isPinned = true := by
  cases hcur : current.find? g a with
  | none =>
    obtain ⟨-, role, status, hnew⟩ := (ctx.reshaped_plan current).added hb hcur
    rw [hnew] at hp
    cases hp
  | some old =>
    refine ⟨old, rfl, ?_⟩
    rw [← ((ctx.reshaped_plan current).reworked hcur hb).isPinned_eq, hp]

theorem writer_reader_left_in_service_iff (hne : ctx.writerGroup ≠ ctx.readerGroup)
    (hd : ctx.health.Distinct) (hw : (ctx.plan current).writer = some w)
    (hb : (ctx.plan current).backends.find? ctx.readerGroup w = some b) (hp : b.isPinned = true) :
    (b.status ≠ .offlineHard ↔ current.removedAt ⟨ctx.readerGroup, w⟩ = false ∧
      ∃ o, o ≠ w ∧ ctx.health.health o = .routable ∧ ctx.keepsReader current o = true ∧
        ∀ c ∈ (ctx.plan current).backends.liveIn ctx.readerGroup, c.addr = w ∨ c.addr = o) ∧
    (b.status ≠ .offlineHard → current.find? ctx.readerGroup w = some b) := by
  obtain ⟨old, hold, hpin⟩ := ctx.exists_pinned_of_plan hb hp
  have hplanned := ctx.find?_plan_reader_of_pinned hne hd hw hold hpin
  rw [hb, Option.some.injEq] at hplanned
  rw [BackendSet.removedAt_of_find? hold]
  by_cases hr : old.isRemoved = false
  · rw [← ctx.passedOver_iff hne hw hold hpin hr]
    split at hplanned
    · rename_i hkept
      have hlive : b.status ≠ .offlineHard := by
        rw [hplanned]
        simpa [Backend.isRemoved] using hr
      exact ⟨⟨fun _ => ⟨hr, hkept⟩, fun _ => hlive⟩, fun _ => by rw [hold, hplanned]⟩
    · rename_i hforced
      have hhard : b.status = .offlineHard := by
        rw [hplanned]
        rfl
      exact ⟨⟨fun h => absurd hhard h, fun h => absurd h.2 hforced⟩, fun h => absurd hhard h⟩
  · have hhard : b.status = .offlineHard := by
      rw [hplanned]
      split
      · exact Backend.isRemoved_iff.1 (by simpa using hr)
      · rfl
    exact ⟨⟨fun h => absurd hhard h, fun h => absurd h.1 hr⟩, fun h => absurd hhard h⟩

/-- A pinned row is left in service exactly when it is the writer's own reader row, was found
in service, and reads are served by one other node alone, which kept its reader row or
recovered. It is left as it was then. -/
theorem pinned_row_left_in_service_iff (hne : ctx.writerGroup ≠ ctx.readerGroup)
    (hd : ctx.health.Distinct) (current : BackendSet) :
    ∀ b ∈ (ctx.plan current).backends.rows,
      b.hostgroup ∈ [ctx.writerGroup, ctx.readerGroup] → b.isPinned = true →
      (b.status ≠ .offlineHard ↔
        b.hostgroup = ctx.readerGroup ∧ (ctx.plan current).writer = some b.addr ∧
          current.removedAt b.key = false ∧
          ∃ o, o ≠ b.addr ∧ ctx.health.health o = .routable ∧ ctx.keepsReader current o = true ∧
            ∀ c ∈ (ctx.plan current).backends.liveIn ctx.readerGroup,
              c.addr = b.addr ∨ c.addr = o) ∧
      (b.status ≠ .offlineHard → b ∈ current.rows) := by
  intro b hb hg hp
  by_cases hself : b.hostgroup = ctx.readerGroup ∧ (ctx.plan current).writer = some b.addr
  · obtain ⟨hgroup, hw⟩ := hself
    have hrow := BackendSet.find?_of_mem hb
    rw [hgroup] at hrow
    have hkey : b.key = ⟨ctx.readerGroup, b.addr⟩ := by rw [Backend.key, hgroup]
    obtain ⟨hiff, hsame⟩ := ctx.writer_reader_left_in_service_iff hne hd hw hrow hp
    refine ⟨?_, fun h => (BackendSet.find?_eq_some_iff.1 (hsame h)).1⟩
    rw [hiff, hkey]
    constructor
    · intro h
      exact ⟨hgroup, hw, h⟩
    · rintro ⟨-, -, h⟩
      exact h
  · have hhard := ctx.status_of_pinned_of_ne hne hd hb hg hp hself
    exact ⟨⟨fun h => absurd hhard h, fun h => absurd ⟨h.1, h.2.1⟩ hself⟩, fun h => absurd hhard h⟩

def twoSynced : PlanContext where
  writerGroup := 10
  readerGroup := 11
  health := HealthMap.ofProbes .synced [syncedProbe "db1", syncedProbe "db2"]
  blacklist := ⟨[]⟩

def pinnedInService : BackendSet :=
  Table.ofList [Backend.new 10 ⟨"db1", 3306⟩ .writer,
    (Backend.new 11 ⟨"db1", 3306⟩ .reader).withOverride (some .offlineHard),
    Backend.new 11 ⟨"db2", 3306⟩ .reader]

theorem pinned_row_left_in_service_iff_of_pinnedInService :
    twoSynced.writerGroup ≠ twoSynced.readerGroup ∧ twoSynced.health.Distinct ∧
      (Backend.new 11 ⟨"db1", 3306⟩ .reader).withOverride (some .offlineHard) ∈
        pinnedInService.rows ∧
      ∃ o, twoSynced.health.health o = .routable ∧ twoSynced.keepsReader pinnedInService o = true ∧
        ∀ c ∈ (twoSynced.plan pinnedInService).backends.liveIn 11,
          c.addr = ⟨"db1", 3306⟩ ∨ c.addr = o := by
  have hne : twoSynced.writerGroup ≠ twoSynced.readerGroup := by decide
  have hd : twoSynced.health.Distinct := by
    unfold HealthMap.Distinct
    decide
  obtain ⟨hiff, hsame⟩ := pinned_row_left_in_service_iff twoSynced hne hd pinnedInService
    ((Backend.new 11 ⟨"db1", 3306⟩ .reader).withOverride (some .offlineHard)) (by decide)
    (by decide) rfl
  obtain ⟨-, -, -, o, -, hh, hk, hall⟩ := hiff.1 (by decide)
  exact ⟨hne, hd, hsame (by decide), o, hh, hk, hall⟩

/-- The pinned row is not forced out of service. -/
theorem pinned_row_left_in_service :
    ¬ ∀ b ∈ (twoSynced.plan pinnedInService).backends.rows,
      b.hostgroup ∈ [twoSynced.writerGroup, twoSynced.readerGroup] → b.isPinned = true →
      b.status = .offlineHard := by
  intro h
  have hb : (Backend.new 11 ⟨"db1", 3306⟩ .reader).withOverride (some .offlineHard) ∈
      (twoSynced.plan pinnedInService).backends.rows := by decide
  exact absurd (h _ hb (by decide) rfl) (by decide)

end SingleWriter.PlanContext
