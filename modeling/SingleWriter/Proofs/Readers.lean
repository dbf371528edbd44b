import SingleWriter.Proofs.Election

/-!
# Reader stages

The reader stages touch only the reader hostgroup. A reader row of a node other than the
writer follows the health of its node, candidates without a row are added, and of the
rows that are not online after that only the one of the last companion of the writer can
be brought online. Its row was live before, so that the live addresses stay the same.
-/

set_option autoImplicit false

namespace SingleWriter.PlanContext

variable (ctx : PlanContext) {s : BackendSet} {g : UInt32} {a w : Addr}

/-! ## Convergence -/

theorem followHealth_online {b : Backend} (h : (ctx.followHealth b).isOnline = true) :
    ctx.health.health b.addr = .routable := by
  unfold followHealth at h
  split at h
  · cases h
  · split at h
    · assumption
    · split at h
      · rename_i hr
        rw [Backend.isRemoved_iff] at hr
        rw [Backend.isOnline_iff, hr] at h
        cases h
      · cases h
    · cases h
    · cases h

theorem reworked_followHealth (b : Backend) : b.Reworked (ctx.followHealth b) := by
  unfold followHealth
  split
  · exact b.reworked_withStatus _
  · split
    · exact b.reworked_withRole _ _
    · split
      · exact b.reworked_refl
      · exact b.reworked_withStatus _
    · exact b.reworked_withStatus _
    · exact b.reworked_withStatus _

def settledReaders (s : BackendSet) (writer : Option Addr) : BackendSet :=
  s.mapRows (ctx.settleReader writer) (ctx.key_settleReader writer)

theorem find?_settledReaders (s : BackendSet) (writer : Option Addr) (g : UInt32) (a : Addr) :
    (ctx.settledReaders s writer).find? g a =
      if g = ctx.readerGroup ∧ writer ≠ some a then (s.find? g a).map ctx.followHealth
      else s.find? g a := by
  have hrow : (ctx.settledReaders s writer).find? g a =
      (s.find? g a).map (ctx.settleReader writer) :=
    BackendSet.find?_mapRows s (ctx.settleReader writer) (ctx.key_settleReader writer) g a
  rw [hrow]
  cases h : s.find? g a with
  | none => simp
  | some b =>
    obtain ⟨-, hg, ha⟩ := BackendSet.find?_eq_some_iff.1 h
    simp only [Option.map_some, settleReader, hg, ha]
    split <;> rfl

theorem find?_fallback (s : BackendSet) (w : Addr) (g : UInt32) (a : Addr) :
    (ctx.fallback s w).find? g a =
      if (ctx.readerGroup = g ∧ w = a) ∧
          (s.onlineIn ctx.readerGroup).any (·.addr ≠ w) = false then
        some (ctx.servingReader a (s.find? g a))
      else s.find? g a := by
  unfold fallback
  by_cases ho : (s.onlineIn ctx.readerGroup).any (·.addr ≠ w) = true
  · rw [if_pos ho, ho]
    simp
  · rw [if_neg ho, find?_ensureReader]
    have ho' : (s.onlineIn ctx.readerGroup).any (·.addr ≠ w) = false := by simpa using ho
    simp only [ho', and_true]

theorem find?_convergeReaders_of_ne {writer : Option Addr} (h : writer ≠ some a) :
    (ctx.convergeReaders s writer).find? ctx.readerGroup a =
      (s.find? ctx.readerGroup a).map ctx.followHealth := by
  have hset := ctx.find?_settledReaders s writer ctx.readerGroup a
  rw [if_pos ⟨rfl, h⟩] at hset
  rw [← hset]
  cases writer with
  | none => rfl
  | some w =>
    have hw : w ≠ a := fun hw => h (congrArg some hw)
    change (ctx.fallback (ctx.settledReaders s (some w)) w).find? ctx.readerGroup a = _
    rw [find?_fallback, if_neg (fun hk => hw hk.1.2)]

theorem find?_convergeReaders_outside (writer : Option Addr) (h : g ≠ ctx.readerGroup) :
    (ctx.convergeReaders s writer).find? g a = s.find? g a := by
  have hset := ctx.find?_settledReaders s writer g a
  rw [if_neg (fun hk => h hk.1)] at hset
  rw [← hset]
  cases writer with
  | none => rfl
  | some w =>
    change (ctx.fallback (ctx.settledReaders s (some w)) w).find? g a = _
    rw [find?_fallback, if_neg (fun hk => h hk.1.1.symm)]

theorem reshaped_convergeReaders (s : BackendSet) (writer : Option Addr) :
    BackendSet.Reshaped [ctx.writerGroup, ctx.readerGroup] s (ctx.convergeReaders s writer) := by
  have hset : BackendSet.Reshaped [ctx.writerGroup, ctx.readerGroup] s
      (ctx.settledReaders s writer) := by
    apply BackendSet.reshaped_mapRows
    intro b
    unfold settleReader
    split
    · exact ctx.reworked_followHealth b
    · exact b.reworked_refl
  cases writer with
  | none => exact hset
  | some w =>
    apply hset.trans
    change BackendSet.Reshaped _ _ (ctx.fallback (ctx.settledReaders s (some w)) w)
    unfold fallback
    split
    · exact BackendSet.reshaped_refl _ _
    · exact ctx.reshaped_ensureReader _ w

/-! ## Filling -/

def lacksReader (s : BackendSet) (a : Addr) : Bool :=
  !((s.find? ctx.readerGroup a).isSome || ctx.isLiveWriter s a || s.isPinned a)

theorem addReader_of_lacksReader {x : Addr} (h : ctx.lacksReader s x = true) :
    ctx.addReader s x = s.insert (Backend.new ctx.readerGroup x .reader) :=
  if_neg (by simpa [lacksReader] using h)

theorem addReader_of_not_lacksReader {x : Addr} (h : ctx.lacksReader s x = false) :
    ctx.addReader s x = s :=
  if_pos (by simpa only [lacksReader, Bool.not_eq_false'] using h)

theorem find?_addReader (s : BackendSet) (x : Addr) (g : UInt32) (a : Addr) :
    (ctx.addReader s x).find? g a =
      if (ctx.readerGroup = g ∧ x = a) ∧ ctx.lacksReader s x = true then
        some (Backend.new ctx.readerGroup x .reader)
      else s.find? g a := by
  have hins := BackendSet.find?_insert s (Backend.new ctx.readerGroup x .reader) g a
  by_cases hl : ctx.lacksReader s x = true
  · rw [ctx.addReader_of_lacksReader hl, hins]
    simp only [hl, and_true]
    rfl
  · rw [ctx.addReader_of_not_lacksReader (by simpa using hl), if_neg (fun hk => hl hk.2)]

theorem reshaped_addReader (s : BackendSet) (x : Addr) :
    BackendSet.Reshaped [ctx.writerGroup, ctx.readerGroup] s (ctx.addReader s x) := by
  unfold addReader
  split
  · exact BackendSet.reshaped_refl _ _
  · rename_i h
    simp only [Bool.or_eq_true, not_or, Bool.not_eq_true, Option.isSome_eq_false_iff,
      Option.isNone_iff_eq_none] at h
    exact BackendSet.reshaped_insert_new s (by simp) x .reader h.1.1

theorem lacksReader_addReader (hne : ctx.writerGroup ≠ ctx.readerGroup) (s : BackendSet)
    {x : Addr} (h : x ≠ a) : ctx.lacksReader (ctx.addReader s x) a = ctx.lacksReader s a := by
  have hreader : (ctx.addReader s x).find? ctx.readerGroup a = s.find? ctx.readerGroup a := by
    rw [find?_addReader, if_neg (fun hk => h hk.1.2)]
  have hwriter : (ctx.addReader s x).find? ctx.writerGroup a = s.find? ctx.writerGroup a := by
    rw [find?_addReader, if_neg (fun hk => hne hk.1.1.symm)]
  simp only [lacksReader, isLiveWriter, hreader, hwriter, (ctx.reshaped_addReader s x).isPinned_eq]

theorem lacksReader_addReader_self (s : BackendSet) (x : Addr) :
    ctx.lacksReader (ctx.addReader s x) x = false := by
  by_cases hl : ctx.lacksReader s x = true
  · have hrow := ctx.find?_addReader s x ctx.readerGroup x
    rw [if_pos ⟨⟨rfl, rfl⟩, hl⟩] at hrow
    simp [lacksReader, hrow]
  · rw [ctx.addReader_of_not_lacksReader (by simpa using hl)]
    simpa using hl

theorem find?_foldl_addReader (hne : ctx.writerGroup ≠ ctx.readerGroup) (addrs : List Addr)
    (s : BackendSet) (g : UInt32) (a : Addr) :
    (addrs.foldl ctx.addReader s).find? g a =
      if g = ctx.readerGroup ∧ a ∈ addrs ∧ ctx.lacksReader s a = true then
        some (Backend.new ctx.readerGroup a .reader)
      else s.find? g a := by
  induction addrs generalizing s with
  | nil => simp
  | cons x rest ih =>
    rw [List.foldl_cons, ih, find?_addReader]
    by_cases hx : x = a
    · subst hx
      rw [lacksReader_addReader_self]
      by_cases hg : g = ctx.readerGroup
      · simp [hg]
      · simp [hg, Ne.symm hg]
    · rw [ctx.lacksReader_addReader hne s hx]
      simp [hx, Ne.symm hx]

theorem find?_fillReaders (hne : ctx.writerGroup ≠ ctx.readerGroup) (s : BackendSet)
    (g : UInt32) (a : Addr) :
    (ctx.fillReaders s).find? g a =
      if g = ctx.readerGroup ∧ a ∈ ctx.health.candidates ∧ ctx.lacksReader s a = true then
        some (Backend.new ctx.readerGroup a .reader)
      else s.find? g a :=
  ctx.find?_foldl_addReader hne ctx.health.candidates s g a

theorem reshaped_fillReaders (s : BackendSet) :
    BackendSet.Reshaped [ctx.writerGroup, ctx.readerGroup] s (ctx.fillReaders s) :=
  BackendSet.reshaped_foldl ctx.addReader ctx.reshaped_addReader _ s

/-! ## The writer and the donor as readers -/

theorem find?_retireWriterReader_of_ne (h : ¬(g = ctx.readerGroup ∧ a = w)) :
    (ctx.retireWriterReader s w).find? g a = s.find? g a := by
  simp only [retireWriterReader]
  split
  · have hrow := BackendSet.find?_setStatus s ctx.readerGroup w .offlineHard g a
    rw [if_neg (fun hk => h ⟨hk.1.symm, hk.2.symm⟩)] at hrow
    exact hrow
  · rfl

theorem reshaped_retireWriterReader (s : BackendSet) (w : Addr) :
    BackendSet.Reshaped [ctx.writerGroup, ctx.readerGroup] s (ctx.retireWriterReader s w) := by
  simp only [retireWriterReader]
  split
  · exact BackendSet.reshaped_setStatus s ctx.readerGroup w .offlineHard
  · exact BackendSet.reshaped_refl _ _

def promotedRow (b : Backend) : Backend :=
  if b.isPinned || b.isRemoved || b.isOnline then b else (b.withStatus .online).withRole .reader

theorem reworked_promotedRow (b : Backend) : b.Reworked (promotedRow b) := by
  unfold promotedRow
  split
  · exact b.reworked_refl
  · exact b.reworked_withRole _ _

theorem isRemoved_promotedRow (b : Backend) : (promotedRow b).isRemoved = b.isRemoved := by
  unfold promotedRow
  split
  · rfl
  · rename_i h
    simp only [Bool.or_eq_true, not_or, Bool.not_eq_true] at h
    rw [h.1.2]
    rfl

/-- The donor that serves reads because only it and the writer are left. -/
def promoted? (s : BackendSet) (w : Addr) : Option Addr :=
  (s.lastCompanion? w).filter ctx.health.isServingDonor

theorem find?_promoteDonor (s : BackendSet) (w : Addr) (g : UInt32) (a : Addr) :
    (ctx.promoteDonor s w).find? g a =
      if g = ctx.readerGroup ∧ ctx.promoted? s w = some a then (s.find? g a).map promotedRow
      else s.find? g a := by
  cases hc : s.lastCompanion? w with
  | none => simp [promoteDonor, promoted?, hc]
  | some d =>
    by_cases hd : ctx.health.isServingDonor d = true
    · have hrow : (ctx.promoteDonor s w).find? g a =
          if ctx.readerGroup = g ∧ d = a then (s.find? g a).map promotedRow else s.find? g a := by
        simp only [promoteDonor, hc, if_pos hd]
        exact BackendSet.find?_change s ctx.readerGroup d promotedRow _ g a
      rw [hrow]
      simp only [promoted?, hc, Option.filter_some, hd, if_true, Option.some.injEq,
        eq_comm (a := g)]
    · have hnone : ctx.promoted? s w = none := by simp [promoted?, hc, hd]
      simp [promoteDonor, hc, hd, hnone]

theorem reshaped_promoteDonor (s : BackendSet) (w : Addr) :
    BackendSet.Reshaped [ctx.writerGroup, ctx.readerGroup] s (ctx.promoteDonor s w) := by
  apply BackendSet.reshaped_of_find?_map
    (fun g a b => if g = ctx.readerGroup ∧ ctx.promoted? s w = some a then promotedRow b else b)
  · intro g a b
    split
    · exact reworked_promotedRow b
    · exact b.reworked_refl
  · intro g a
    rw [find?_promoteDonor]
    split <;> simp

/-- Promotion brings a live row online, and so leaves the live addresses as they are. -/
theorem hasLive_promoteDonor (s : BackendSet) (w a : Addr) :
    (ctx.promoteDonor s w).HasLive a ↔ s.HasLive a := by
  simp only [BackendSet.HasLive, find?_promoteDonor]
  constructor
  · rintro ⟨g, b, hb, hl⟩
    split at hb
    · obtain ⟨c, hc, rfl⟩ := Option.map_eq_some_iff.1 hb
      exact ⟨g, c, hc, by rwa [isRemoved_promotedRow] at hl⟩
    · exact ⟨g, b, hb, hl⟩
  · rintro ⟨g, b, hb, hl⟩
    by_cases hp : g = ctx.readerGroup ∧ ctx.promoted? s w = some a
    · refine ⟨g, promotedRow b, ?_, by rwa [isRemoved_promotedRow]⟩
      rw [if_pos hp, hb]
      rfl
    · exact ⟨g, b, by rw [if_neg hp, hb], hl⟩

theorem promoted?_eq_some {d : Addr} (h : ctx.promoted? s w = some d) :
    s.lastCompanion? w = some d ∧ ctx.health.isServingDonor d = true := by
  simpa [promoted?, Option.filter_eq_some_iff] using h

/-! ## All stages -/

/-- The reader stages, from the elected set on. -/
def served (s : BackendSet) (writer : Option Addr) : BackendSet :=
  ctx.finish (ctx.fillReaders (ctx.convergeReaders s writer)) writer

theorem reshaped_served (s : BackendSet) (writer : Option Addr) :
    BackendSet.Reshaped [ctx.writerGroup, ctx.readerGroup] s (ctx.served s writer) := by
  have hfill := (ctx.reshaped_convergeReaders s writer).trans (ctx.reshaped_fillReaders _)
  cases writer with
  | none => exact hfill
  | some w =>
    exact (hfill.trans (ctx.reshaped_retireWriterReader _ w)).trans (ctx.reshaped_promoteDonor _ w)

theorem find?_served_outside (hne : ctx.writerGroup ≠ ctx.readerGroup) (writer : Option Addr)
    (h : g ≠ ctx.readerGroup) : (ctx.served s writer).find? g a = s.find? g a := by
  have hfill : (ctx.fillReaders (ctx.convergeReaders s writer)).find? g a = s.find? g a := by
    rw [ctx.find?_fillReaders hne, if_neg (fun hk => h hk.1), ctx.find?_convergeReaders_outside _ h]
  rw [← hfill]
  cases writer with
  | none => rfl
  | some w =>
    change (ctx.promoteDonor (ctx.retireWriterReader _ w) w).find? g a = _
    rw [find?_promoteDonor, if_neg (fun hk => h hk.1),
      ctx.find?_retireWriterReader_of_ne (fun hk => h hk.1)]

/-- Before the last two stages, an online reader row is at the writer or at a routable node. -/
theorem routable_of_filled_online (hne : ctx.writerGroup ≠ ctx.readerGroup)
    (hd : ctx.health.Distinct) {writer : Option Addr} (hw : writer ≠ some a) {b : Backend}
    (hb : (ctx.fillReaders (ctx.convergeReaders s writer)).find? ctx.readerGroup a = some b)
    (ho : b.isOnline = true) : ctx.health.health a = .routable := by
  rw [ctx.find?_fillReaders hne, ctx.find?_convergeReaders_of_ne hw] at hb
  split at hb
  · rename_i hfill
    exact (HealthMap.mem_candidates_iff hd).1 hfill.2.1
  · obtain ⟨c, hc, rfl⟩ := Option.map_eq_some_iff.1 hb
    rw [← (BackendSet.find?_eq_some_iff.1 hc).2.2]
    exact ctx.followHealth_online ho

/-- An online reader row is at the writer, at a routable node, or at a serving donor that is
the last companion of the writer. -/
theorem online_served_cases (hne : ctx.writerGroup ≠ ctx.readerGroup)
    (hd : ctx.health.Distinct) {writer : Option Addr} {b : Backend}
    (hb : (ctx.served s writer).find? ctx.readerGroup a = some b) (ho : b.isOnline = true) :
    writer = some a ∨ ctx.health.health a = .routable ∨
      ∃ w, writer = some w ∧ ctx.health.isServingDonor a = true ∧
        (ctx.served s writer).lastCompanion? w = some a := by
  by_cases hw : writer = some a
  · exact .inl hw
  · right
    cases writer with
    | none => exact .inl (ctx.routable_of_filled_online hne hd hw hb ho)
    | some w =>
      have hwa : w ≠ a := fun h => hw (congrArg some h)
      have hset : ctx.served s (some w) = ctx.promoteDonor (ctx.retireWriterReader
          (ctx.fillReaders (ctx.convergeReaders s (some w))) w) w := rfl
      rw [hset] at hb ⊢
      rw [find?_promoteDonor] at hb
      split at hb
      · rename_i hp
        obtain ⟨hlast, hdonor⟩ := ctx.promoted?_eq_some hp.2
        refine .inr ⟨w, rfl, hdonor, ?_⟩
        rw [BackendSet.lastCompanion?_eq_some_iff] at hlast ⊢
        simp only [hasLive_promoteDonor]
        exact hlast
      · rw [ctx.find?_retireWriterReader_of_ne (fun hk => hwa hk.2.symm)] at hb
        exact .inl (ctx.routable_of_filled_online hne hd hw hb ho)

end SingleWriter.PlanContext
