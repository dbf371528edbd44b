import SingleWriter.Proofs.Plans

/-!
# Targets of rows

What the plan makes of each row, read off the health of its node, what the row was and the
operator's pin. A writer row beside the writer is at rest. A reader row beside the writer
follows its node, and only the row of a donor that is the last companion of the writer is
brought online after that. The donor rule is decided on the set before it, and can be
read off the planned set as well, since a promotion leaves the live addresses alone.

The row of a donor is promoted only while it is in service. A donor whose reader row is
removed can be the last companion by its drained writer row, and is not promoted then.
-/

set_option autoImplicit false

namespace SingleWriter

namespace BackendSet

def removedAt (s : BackendSet) (k : Backend.Key) : Bool := (s.get? k).any Backend.isRemoved

theorem removedAt_of_find? {s : BackendSet} {g : UInt32} {a : Addr} {b : Backend}
    (h : s.find? g a = some b) : s.removedAt ⟨g, a⟩ = b.isRemoved := by
  rw [removedAt, ← find?, h, Option.any_some]

theorem lastCompanion?_congr {s t : BackendSet} (h : ∀ a, s.HasLive a ↔ t.HasLive a) (w : Addr) :
    s.lastCompanion? w = t.lastCompanion? w := by
  ext d
  rw [lastCompanion?_eq_some_iff, lastCompanion?_eq_some_iff]
  simp only [h]

end BackendSet

namespace PlanContext

variable (ctx : PlanContext) {s current : BackendSet} {a w : Addr} {b : Backend}

/-! ## One row -/

theorem followHealth_of_pinned (hp : b.isPinned = true) :
    ctx.followHealth b = b.withStatus .offlineHard := if_pos hp

theorem followHealth_of_routable (hp : b.isPinned = false)
    (hh : ctx.health.health b.addr = .routable) :
    ctx.followHealth b = (b.withStatus .online).withRole .reader := by
  simp [followHealth, hp, hh]

theorem followHealth_of_unfit (hp : b.isPinned = false)
    (hh : ctx.health.health b.addr = .unfit) :
    ctx.followHealth b = if b.isRemoved then b else b.withStatus .offlineSoft := by
  simp [followHealth, hp, hh]

theorem followHealth_of_gone
    (hh : ctx.health.health b.addr = .unreachable ∨ ctx.health.health b.addr = .absent) :
    ctx.followHealth b = b.withStatus .offlineHard := by
  rcases hh with hh | hh <;> simp [followHealth, hh]

theorem followHealth_new (hh : ctx.health.health a = .routable) :
    ctx.followHealth (Backend.new ctx.readerGroup a .reader) =
      Backend.new ctx.readerGroup a .reader :=
  ctx.followHealth_of_routable rfl hh

/-- A routable node follows its health however its row was made to serve reads. -/
theorem followHealth_servingReader (ha : b.addr = a) (hh : ctx.health.health a = .routable) :
    ctx.followHealth (ctx.servingReader a (some b)) = ctx.followHealth b := by
  subst ha
  by_cases hp : b.isPinned = true
  · rw [servingReader, if_pos hp, ctx.followHealth_of_pinned hp]
    exact ctx.followHealth_of_pinned hp
  · have hp' : b.isPinned = false := by simpa using hp
    rw [servingReader, if_neg hp, ctx.followHealth_of_routable hp' hh]
    exact ctx.followHealth_of_routable hp' hh

/-! ## Reader rows beside the writer -/

/-- The rows before the writer's own reader row and the donor are looked at. -/
def filled (s : BackendSet) (writer : Option Addr) : BackendSet :=
  ctx.fillReaders (ctx.convergeReaders s writer)

theorem reshaped_filled (s : BackendSet) (writer : Option Addr) :
    BackendSet.Reshaped [ctx.writerGroup, ctx.readerGroup] s (ctx.filled s writer) :=
  (ctx.reshaped_convergeReaders s writer).trans (ctx.reshaped_fillReaders _)

/-- A reader row beside the writer is a current row that follows its node, or a new row of
a routable node. -/
theorem filled_cases (hne : ctx.writerGroup ≠ ctx.readerGroup) (hd : ctx.health.Distinct)
    {writer : Option Addr} (hw : writer ≠ some a)
    (hb : (ctx.filled (ctx.elect current).1 writer).find? ctx.readerGroup a = some b) :
    (∃ old, current.find? ctx.readerGroup a = some old ∧ b = ctx.followHealth old) ∨
    (current.find? ctx.readerGroup a = none ∧ ctx.health.health a = .routable ∧
      b = Backend.new ctx.readerGroup a .reader) := by
  have hconverged := ctx.find?_convergeReaders_of_ne (s := (ctx.elect current).1) hw
  rw [filled, ctx.find?_fillReaders hne] at hb
  split at hb
  · rename_i hlacks
    cases hb
    -- A current row would have been kept, and then there was nothing to fill in.
    refine .inr ⟨?_, (HealthMap.mem_candidates_iff hd).1 hlacks.2.1, rfl⟩
    cases hcur : current.find? ctx.readerGroup a with
    | none => rfl
    | some old =>
      obtain ⟨c, hc, -⟩ := (ctx.reshaped_elect current).kept hcur
      rw [hc] at hconverged
      simp [lacksReader, hconverged] at hlacks
  · rw [hconverged, ctx.find?_elect_reader hne] at hb
    split at hb
    · rename_i hrecovers
      obtain ⟨row, hrow, hr⟩ := ctx.mem_recovering.1 hrecovers.1
      have hh := ctx.routable_of_isRecovering hr
      rw [(BackendSet.find?_eq_some_iff.1 hrow).2.2] at hh
      cases hcur : current.find? ctx.readerGroup a with
      | none =>
        rw [hcur, Option.map_some, servingReader, ctx.followHealth_new hh] at hb
        cases hb
        exact .inr ⟨rfl, hh, rfl⟩
      | some old =>
        have ha := (BackendSet.find?_eq_some_iff.1 hcur).2.2
        rw [hcur, Option.map_some, ctx.followHealth_servingReader ha hh] at hb
        cases hb
        exact .inl ⟨old, rfl, rfl⟩
    · obtain ⟨old, hold, rfl⟩ := Option.map_eq_some_iff.1 hb
      exact .inl ⟨old, hold, rfl⟩

/-! ## The donor -/

theorem promoted?_congr {t : BackendSet} (h : ∀ a, s.HasLive a ↔ t.HasLive a) (w : Addr) :
    ctx.promoted? s w = ctx.promoted? t w := by
  rw [promoted?, promoted?, BackendSet.lastCompanion?_congr h]

def donorFor (s : BackendSet) (writer : Option Addr) : Option Addr :=
  writer.bind (ctx.promoted? s)

theorem donorFor_eq_some_iff {writer : Option Addr} :
    ctx.donorFor s writer = some a ↔
      ∃ w, writer = some w ∧ ctx.health.isServingDonor a = true ∧ a ≠ w ∧
        ∀ x, s.HasLive x ↔ x = w ∨ x = a := by
  simp only [donorFor, Option.bind_eq_some_iff, promoted?, Option.filter_eq_some_iff,
    BackendSet.lastCompanion?_eq_some_iff]
  constructor
  · rintro ⟨w, hw, ⟨hne, hlive⟩, hdonor⟩
    exact ⟨w, hw, hdonor, hne, hlive⟩
  · rintro ⟨w, hw, hdonor, hne, hlive⟩
    exact ⟨w, hw, ⟨hne, hlive⟩, hdonor⟩

theorem donorFor_congr {t : BackendSet} (h : ∀ a, s.HasLive a ↔ t.HasLive a)
    (writer : Option Addr) : ctx.donorFor s writer = ctx.donorFor t writer := by
  cases writer with
  | none => rfl
  | some w => exact ctx.promoted?_congr h w

/-- The last stages leave the reader rows beside the writer, but for that of the donor. -/
theorem find?_served_of_ne {writer : Option Addr} (hw : writer ≠ some a) :
    (ctx.served s writer).find? ctx.readerGroup a =
      ((ctx.filled s writer).find? ctx.readerGroup a).map fun b =>
        if ctx.donorFor (ctx.served s writer) writer = some a then promotedRow b else b := by
  cases writer with
  | none =>
    change (ctx.filled s none).find? ctx.readerGroup a = _
    simp [donorFor]
  | some w =>
    have hwa : a ≠ w := fun h => hw (congrArg some h.symm)
    have hset : ctx.served s (some w) =
        ctx.promoteDonor (ctx.retireWriterReader (ctx.filled s (some w)) w) w := rfl
    have hdonor : ctx.donorFor (ctx.served s (some w)) (some w) =
        ctx.promoted? (ctx.retireWriterReader (ctx.filled s (some w)) w) w :=
      ctx.promoted?_congr (fun x => ctx.hasLive_promoteDonor _ w x) w
    rw [hdonor, hset, find?_promoteDonor,
      ctx.find?_retireWriterReader_of_ne (fun hk => hwa hk.2)]
    by_cases hp : ctx.promoted? (ctx.retireWriterReader (ctx.filled s (some w)) w) w = some a <;>
      simp [hp]

def readerTarget (promoted : Prop) [Decidable promoted] (b : Backend) : Backend :=
  if promoted then promotedRow (ctx.followHealth b) else ctx.followHealth b

/-- A planned reader row beside the writer follows its node, and the donor is promoted. -/
theorem plan_reader_cases (hne : ctx.writerGroup ≠ ctx.readerGroup) (hd : ctx.health.Distinct)
    (hw : (ctx.plan current).writer ≠ some a)
    (hb : (ctx.plan current).backends.find? ctx.readerGroup a = some b) :
    (∃ old, current.find? ctx.readerGroup a = some old ∧ b = ctx.readerTarget
      (ctx.donorFor (ctx.plan current).backends (ctx.plan current).writer = some a) old) ∨
    (current.find? ctx.readerGroup a = none ∧ ctx.health.health a = .routable ∧
      b = Backend.new ctx.readerGroup a .reader) := by
  rw [backends_plan, ctx.find?_served_of_ne hw] at hb
  obtain ⟨c, hc, rfl⟩ := Option.map_eq_some_iff.1 hb
  rcases ctx.filled_cases hne hd hw hc with ⟨old, hold, rfl⟩ | ⟨hnone, hh, rfl⟩
  · exact .inl ⟨old, hold, rfl⟩
  · refine .inr ⟨hnone, hh, ?_⟩
    split <;> rfl

/-! ## One row and the donor -/

variable (promoted : Prop) [Decidable promoted]

theorem reworked_readerTarget (b : Backend) : b.Reworked (ctx.readerTarget promoted b) := by
  unfold readerTarget
  split
  · exact (ctx.reworked_followHealth b).trans (reworked_promotedRow _)
  · exact ctx.reworked_followHealth b

theorem readerTarget_of_removed (h : (ctx.followHealth b).isRemoved = true) :
    ctx.readerTarget promoted b = ctx.followHealth b := by
  unfold readerTarget promotedRow
  simp [h]

theorem readerTarget_of_pinned (hp : b.isPinned = true) :
    ctx.readerTarget promoted b = b.withStatus .offlineHard := by
  have hrow := ctx.followHealth_of_pinned hp
  rw [ctx.readerTarget_of_removed promoted (by rw [hrow]; rfl), hrow]

theorem readerTarget_of_gone
    (hh : ctx.health.health b.addr = .unreachable ∨ ctx.health.health b.addr = .absent) :
    ctx.readerTarget promoted b = b.withStatus .offlineHard := by
  have hrow := ctx.followHealth_of_gone hh
  rw [ctx.readerTarget_of_removed promoted (by rw [hrow]; rfl), hrow]

theorem readerTarget_of_routable (hp : b.isPinned = false)
    (hh : ctx.health.health b.addr = .routable) :
    ctx.readerTarget promoted b = (b.withStatus .online).withRole .reader := by
  have honline : ((b.withStatus .online).withRole .reader).isOnline = true := rfl
  rw [readerTarget, ctx.followHealth_of_routable hp hh, promotedRow, honline, Bool.or_true,
    if_pos rfl, ite_self]

/-- A removed row waits until its node is routable, donor or not. -/
theorem readerTarget_of_unfit_of_removed (hp : b.isPinned = false)
    (hh : ctx.health.health b.addr = .unfit) (hr : b.isRemoved = true) :
    ctx.readerTarget promoted b = b := by
  have hrow : ctx.followHealth b = b := by
    rw [ctx.followHealth_of_unfit hp hh, if_pos hr]
  rw [ctx.readerTarget_of_removed promoted (by rw [hrow, hr]), hrow]

theorem readerTarget_of_unfit (hp : b.isPinned = false)
    (hh : ctx.health.health b.addr = .unfit) (hr : b.isRemoved = false) :
    ctx.readerTarget promoted b =
      if promoted then (b.withStatus .online).withRole .reader else b.withStatus .offlineSoft := by
  have hrow : ctx.followHealth b = b.withStatus .offlineSoft := by
    rw [ctx.followHealth_of_unfit hp hh, if_neg (by simp [hr])]
  have hpin : (b.withStatus .offlineSoft).isPinned = false := hp
  have hrest : promotedRow (b.withStatus .offlineSoft) = (b.withStatus .online).withRole .reader := by
    rw [promotedRow, hpin]
    rfl
  rw [readerTarget, hrow, hrest]

/-! ## The table of targets -/

theorem status_plan_writer (hne : ctx.writerGroup ≠ ctx.readerGroup)
    (hb : (ctx.plan current).backends.find? ctx.writerGroup a = some b) :
    b.status =
      if (ctx.plan current).writer = some a then .online
      else if ctx.health.health a = .unfit ∧ b.isPinned = false ∧
          current.removedAt ⟨ctx.writerGroup, a⟩ = false then .offlineSoft
      else .offlineHard := by
  by_cases hw : (ctx.plan current).writer = some a
  · obtain ⟨c, hc, ho, -⟩ := ctx.find?_plan_self hne hw
    rw [hb] at hc
    cases hc
    rw [if_pos hw]
    exact Backend.isOnline_iff.1 ho
  · rw [ctx.find?_plan_of_ne hne hw] at hb
    obtain ⟨old, hold, rfl⟩ := Option.map_eq_some_iff.1 hb
    have ha := (BackendSet.find?_eq_some_iff.1 hold).2.2
    have hwas := BackendSet.removedAt_of_find? hold
    have hpin : (ctx.rest old).isPinned = old.isPinned := rfl
    rw [if_neg hw, hwas, hpin, ← ha]
    change ctx.restingStatus old = _
    cases hp : old.isPinned <;> cases hr : old.isRemoved <;> simp [restingStatus, hp, hr]

/-- A reader row of a node that is not routable is a current row. -/
theorem exists_old_of_not_routable (hne : ctx.writerGroup ≠ ctx.readerGroup)
    (hd : ctx.health.Distinct) (hw : (ctx.plan current).writer ≠ some a)
    (hb : (ctx.plan current).backends.find? ctx.readerGroup a = some b)
    (hh : ctx.health.health a ≠ .routable ∨ b.isPinned = true) :
    ∃ old, current.find? ctx.readerGroup a = some old ∧ old.addr = a ∧
      old.isPinned = b.isPinned ∧ current.removedAt ⟨ctx.readerGroup, a⟩ = old.isRemoved ∧
      b = ctx.readerTarget (ctx.donorFor (ctx.plan current).backends
        (ctx.plan current).writer = some a) old := by
  rcases ctx.plan_reader_cases hne hd hw hb with ⟨old, hold, hrow⟩ | ⟨-, hr, rfl⟩
  · have hremoved := BackendSet.removedAt_of_find? hold
    have hpin : old.isPinned = b.isPinned := by
      rw [hrow, (ctx.reworked_readerTarget _ old).isPinned_eq]
    exact ⟨old, hold, (BackendSet.find?_eq_some_iff.1 hold).2.2, hpin, hremoved, hrow⟩
  · rcases hh with hh | hp
    · exact absurd hr hh
    · cases hp

theorem plan_reader_routable (hne : ctx.writerGroup ≠ ctx.readerGroup)
    (hd : ctx.health.Distinct) (hw : (ctx.plan current).writer ≠ some a)
    (hb : (ctx.plan current).backends.find? ctx.readerGroup a = some b)
    (hp : b.isPinned = false) (hh : ctx.health.health a = .routable) :
    b.status = .online ∧ b.annotation.role = .reader := by
  rcases ctx.plan_reader_cases hne hd hw hb with ⟨old, hold, rfl⟩ | ⟨-, -, rfl⟩
  · rw [← (BackendSet.find?_eq_some_iff.1 hold).2.2] at hh
    rw [(ctx.reworked_readerTarget _ old).isPinned_eq] at hp
    rw [ctx.readerTarget_of_routable _ hp hh]
    exact ⟨rfl, rfl⟩
  · exact ⟨rfl, rfl⟩

/-- Every planned row beside the writer's own reader row has the status that the health of
its node asks for. A removed row waits for a routable node; a drained reader row is online
exactly when its node is a serving donor and the last companion of the writer. -/
theorem plan_follows_health (hne : ctx.writerGroup ≠ ctx.readerGroup)
    (hd : ctx.health.Distinct) (current : BackendSet) :
    (∀ b ∈ (ctx.plan current).backends.rows, b.hostgroup = ctx.writerGroup →
      b.status =
        if (ctx.plan current).writer = some b.addr then .online
        else if ctx.health.health b.addr = .unfit ∧ b.isPinned = false ∧
            current.removedAt b.key = false then .offlineSoft
        else .offlineHard) ∧
    (∀ b ∈ (ctx.plan current).backends.rows, b.hostgroup = ctx.readerGroup →
      (ctx.plan current).writer ≠ some b.addr →
      (b.isPinned = true ∨ ctx.health.health b.addr = .unreachable ∨
        ctx.health.health b.addr = .absent → b.status = .offlineHard) ∧
      (b.isPinned = false → ctx.health.health b.addr = .routable →
        b.status = .online ∧ b.annotation.role = .reader) ∧
      (b.isPinned = false → ctx.health.health b.addr = .unfit →
        current.removedAt b.key = true → b.status = .offlineHard) ∧
      (b.isPinned = false → ctx.health.health b.addr = .unfit →
        current.removedAt b.key = false →
        ((∃ w, (ctx.plan current).writer = some w ∧ ctx.health.isServingDonor b.addr = true ∧
            ∀ a, (ctx.plan current).backends.HasLive a ↔ a = w ∨ a = b.addr) →
          b.status = .online ∧ b.annotation.role = .reader) ∧
        ((¬ ∃ w, (ctx.plan current).writer = some w ∧ ctx.health.isServingDonor b.addr = true ∧
            ∀ a, (ctx.plan current).backends.HasLive a ↔ a = w ∨ a = b.addr) →
          b.status = .offlineSoft))) := by
  constructor
  · intro b hb hg
    have hrow := BackendSet.find?_of_mem hb
    rw [hg] at hrow
    rw [ctx.status_plan_writer hne hrow, Backend.key, hg]
  · intro b hb hg hw
    have hrow := BackendSet.find?_of_mem hb
    rw [hg] at hrow
    have hkey : b.key = ⟨ctx.readerGroup, b.addr⟩ := by rw [Backend.key, hg]
    refine ⟨?_, ctx.plan_reader_routable hne hd hw hrow, ?_, ?_⟩
    · rintro (hp | hh)
      · obtain ⟨old, -, -, hpin, -, hold⟩ := ctx.exists_old_of_not_routable hne hd hw hrow (.inr hp)
        rw [hold, ctx.readerTarget_of_pinned _ (hpin.trans hp)]
        rfl
      · have hnot : ctx.health.health b.addr ≠ .routable := by
          rcases hh with hh | hh <;> simp [hh]
        obtain ⟨old, -, ha, -, -, hold⟩ :=
          ctx.exists_old_of_not_routable hne hd hw hrow (.inl hnot)
        rw [hold, ctx.readerTarget_of_gone _ (by rwa [ha])]
        rfl
    · intro hp hh hr
      obtain ⟨old, -, ha, hpin, hwas, hold⟩ :=
        ctx.exists_old_of_not_routable hne hd hw hrow (.inl (by simp [hh]))
      rw [hkey, hwas] at hr
      rw [hold, ctx.readerTarget_of_unfit_of_removed _ (hpin.trans hp) (by rwa [ha]) hr]
      exact Backend.isRemoved_iff.1 hr
    · intro hp hh hr
      obtain ⟨old, -, ha, hpin, hwas, hold⟩ :=
        ctx.exists_old_of_not_routable hne hd hw hrow (.inl (by simp [hh]))
      rw [hkey, hwas] at hr
      have htarget := ctx.readerTarget_of_unfit (ctx.donorFor (ctx.plan current).backends
        (ctx.plan current).writer = some b.addr) (hpin.trans hp) (by rwa [ha]) hr
      rw [← hold] at htarget
      constructor
      · rintro ⟨w, hwriter, hdonor, hlive⟩
        have hbw : b.addr ≠ w := fun h => hw (hwriter.trans (congrArg some h.symm))
        have hpromoted := ctx.donorFor_eq_some_iff.2 ⟨w, hwriter, hdonor, hbw, hlive⟩
        rw [if_pos hpromoted] at htarget
        rw [htarget]
        exact ⟨rfl, rfl⟩
      · intro hnone
        rw [if_neg] at htarget
        · rw [htarget]
          rfl
        · rw [donorFor_eq_some_iff]
          rintro ⟨w, hwriter, hdonor, -, hlive⟩
          exact hnone ⟨w, hwriter, hdonor, hlive⟩

def donorBeside : PlanContext where
  writerGroup := 10
  readerGroup := 11
  health := HealthMap.ofProbes .synced [syncedProbe "db1",
    ⟨⟨"db2", 3306⟩, .ok { syncedNode "db2" with state := .donor }⟩]
  blacklist := {}

def drainedReader : BackendSet :=
  Table.ofList [Backend.new 10 ⟨"db1", 3306⟩ .writer, Backend.new 11 ⟨"db2", 3306⟩ .none .offlineSoft]

theorem plan_follows_health_of_drainedReader :
    donorBeside.writerGroup ≠ donorBeside.readerGroup ∧ donorBeside.health.Distinct ∧
    Backend.new 11 ⟨"db2", 3306⟩ .reader ∈ (donorBeside.plan drainedReader).backends.rows ∧
    (Backend.new 11 ⟨"db2", 3306⟩ .reader).status = .online := by
  have hne : donorBeside.writerGroup ≠ donorBeside.readerGroup := by decide
  have hd : donorBeside.health.Distinct := by
    unfold HealthMap.Distinct
    decide
  have hb : Backend.new 11 ⟨"db2", 3306⟩ .reader ∈
      (donorBeside.plan drainedReader).backends.rows := by decide
  have hlast : (donorBeside.plan drainedReader).backends.lastCompanion? ⟨"db1", 3306⟩ =
      some ⟨"db2", 3306⟩ := by decide
  obtain ⟨-, hreader⟩ := plan_follows_health donorBeside hne hd drainedReader
  obtain ⟨-, -, -, hdonor⟩ := hreader _ hb rfl (by decide)
  refine ⟨hne, hd, hb, ((hdonor rfl (by decide) (by decide)).1 ?_).1⟩
  exact ⟨⟨"db1", 3306⟩, by decide, by decide, (BackendSet.lastCompanion?_eq_some_iff.1 hlast).2⟩

def drainedWriter : BackendSet :=
  Table.ofList [Backend.new 10 ⟨"db1", 3306⟩ .writer,
    Backend.new 10 ⟨"db2", 3306⟩ .writer .offlineSoft,
    Backend.new 11 ⟨"db2", 3306⟩ .reader .offlineHard]

/-- The last companion of the writer is a serving donor, and its removed reader row is not
brought online. -/
theorem removed_donor_not_promoted :
    ¬ ∀ b ∈ (donorBeside.plan drainedWriter).backends.rows, b.hostgroup = donorBeside.readerGroup →
      (donorBeside.plan drainedWriter).writer ≠ some b.addr → b.isPinned = false →
      donorBeside.health.health b.addr = .unfit →
      (b.status = .online ∧ b.annotation.role = .reader ↔
        ∃ w, (donorBeside.plan drainedWriter).writer = some w ∧
          donorBeside.health.isServingDonor b.addr = true ∧
          ∀ a, (donorBeside.plan drainedWriter).backends.HasLive a ↔ a = w ∨ a = b.addr) := by
  intro h
  have hb : Backend.new 11 ⟨"db2", 3306⟩ .reader .offlineHard ∈
      (donorBeside.plan drainedWriter).backends.rows := by decide
  have hlast : (donorBeside.plan drainedWriter).backends.lastCompanion? ⟨"db1", 3306⟩ =
      some ⟨"db2", 3306⟩ := by decide
  have honline := (h _ hb rfl (by decide) rfl (by decide)).2 ⟨⟨"db1", 3306⟩, by decide, by decide,
    (BackendSet.lastCompanion?_eq_some_iff.1 hlast).2⟩
  exact absurd honline.1 (by decide)

end PlanContext

end SingleWriter
