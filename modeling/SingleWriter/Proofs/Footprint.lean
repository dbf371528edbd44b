import SingleWriter.Proofs.Steady

/-!
# What a plan touches

The rows of the current set stand in the plan in their places, and rows with new keys come
after them. A row of another hostgroup is the same row. Of a row in the two hostgroups only
the status and the role can change, and the role only where no pin holds the row, to what
its hostgroup is for. A new row has the default columns: it is the online row of the writer
or a row for reads at a routable node, which is removed at once only where the writer is
the node.
-/

set_option autoImplicit false

namespace SingleWriter

namespace Backend

structure Tended (role : Role) (old new : Backend) : Prop where
  reworked : old.Reworked new
  role : new.annotation.role = old.annotation.role ∨
    (old.isPinned = false ∧ new.annotation.role = role)

variable {role : Role} {a b c : Backend}

theorem tended_refl (role : Role) (b : Backend) : Tended role b b := ⟨b.reworked_refl, .inl rfl⟩

theorem tended_withStatus (role : Role) (b : Backend) (status : Status) :
    Tended role b (b.withStatus status) := ⟨b.reworked_withStatus status, .inl rfl⟩

theorem tended_withRole (role : Role) (hp : b.isPinned = false) (status : Status) :
    Tended role b ((b.withStatus status).withRole role) :=
  ⟨b.reworked_withRole status role, .inr ⟨hp, rfl⟩⟩

theorem Tended.trans (hab : Tended role a b) (hbc : Tended role b c) : Tended role a c where
  reworked := hab.reworked.trans hbc.reworked
  role := by
    rcases hbc.role with hsame | ⟨hp, hrole⟩
    · rw [hsame]
      exact hab.role
    · exact .inr ⟨by rw [← hab.reworked.isPinned_eq, hp], hrole⟩

/-! ## What only an operator sets -/

structure SameTuning (old new : Backend) : Prop where
  weight : new.weight = old.weight
  compression : new.compression = old.compression
  maxConnections : new.maxConnections = old.maxConnections
  maxReplicationLag : new.maxReplicationLag = old.maxReplicationLag
  useSsl : new.useSsl = old.useSsl
  maxLatencyMs : new.maxLatencyMs = old.maxLatencyMs
  override : new.annotation.override = old.annotation.override

structure Untuned (b : Backend) : Prop where
  weight : b.weight = 1
  compression : b.compression = 0
  maxConnections : b.maxConnections = 10000
  maxReplicationLag : b.maxReplicationLag = 0
  useSsl : b.useSsl = false
  maxLatencyMs : b.maxLatencyMs = 0
  override : b.annotation.override = none

theorem Reworked.sameTuning (h : Reworked a b) : a.SameTuning b := by
  obtain ⟨status, role, rfl⟩ := h
  exact ⟨rfl, rfl, rfl, rfl, rfl, rfl, rfl⟩

theorem untuned_new (g : UInt32) (addr : Addr) (role : Role) (status : Status) :
    (new g addr role status).Untuned := ⟨rfl, rfl, rfl, rfl, rfl, rfl, rfl⟩

theorem override_ne_of_unpinned (h : b.isPinned = false) :
    b.annotation.override ≠ some .offlineHard := by simpa [isPinned] using h

end Backend

namespace PlanContext

variable (ctx : PlanContext) {current : BackendSet} {g : UInt32} {a w : Addr} {b old new : Backend}

/-! ## One row -/

theorem tended_followHealth (b : Backend) : Backend.Tended .reader b (ctx.followHealth b) := by
  by_cases hp : b.isPinned = true
  · rw [ctx.followHealth_of_pinned hp]
    exact b.tended_withStatus _ _
  · have hp' : b.isPinned = false := by simpa using hp
    cases hh : ctx.health.health b.addr with
    | routable =>
      rw [ctx.followHealth_of_routable hp' hh]
      exact Backend.tended_withRole _ hp' _
    | unfit =>
      rw [ctx.followHealth_of_unfit hp' hh]
      split
      · exact b.tended_refl _
      · exact b.tended_withStatus _ _
    | unreachable =>
      rw [ctx.followHealth_of_gone (.inl hh)]
      exact b.tended_withStatus _ _
    | absent =>
      rw [ctx.followHealth_of_gone (.inr hh)]
      exact b.tended_withStatus _ _

theorem tended_promotedRow (b : Backend) : Backend.Tended .reader b (promotedRow b) := by
  unfold promotedRow
  split
  · exact b.tended_refl _
  · rename_i h
    simp only [Bool.or_eq_true, not_or, Bool.not_eq_true] at h
    exact Backend.tended_withRole _ h.1.1 _

theorem tended_readerTarget (promoted : Prop) [Decidable promoted] (b : Backend) :
    Backend.Tended .reader b (ctx.readerTarget promoted b) := by
  unfold readerTarget
  split
  · exact (ctx.tended_followHealth b).trans (tended_promotedRow _)
  · exact ctx.tended_followHealth b

theorem tended_servingReader (a : Addr) (b : Backend) :
    Backend.Tended .reader b (ctx.servingReader a (some b)) := by
  by_cases hp : b.isPinned = true
  · rw [servingReader, if_pos hp]
    exact b.tended_withStatus _ _
  · rw [servingReader, if_neg hp]
    exact Backend.tended_withRole _ (by simpa using hp) _

/-! ## The rows of the writer -/

/-- The writer row that was there stays or is activated without a pin; else it is new. -/
theorem find?_plan_writer_cases (hne : ctx.writerGroup ≠ ctx.readerGroup)
    (hw : (ctx.plan current).writer = some w)
    (hb : (ctx.plan current).backends.find? ctx.writerGroup w = some b) :
    (∃ old, current.find? ctx.writerGroup w = some old ∧
      (b = old ∨ (old.isPinned = false ∧ b = activated old))) ∨
    (current.find? ctx.writerGroup w = none ∧ b = Backend.new ctx.writerGroup w .writer) := by
  rw [ctx.find?_plan_writer hne] at hb
  rcases ctx.elect_cases hne hw with ⟨old, hold, -, hrow⟩ | ⟨old, hold, hr, hrow⟩ | ⟨-, hp, hrow⟩
  · rw [hb] at hrow
    exact .inl ⟨old, hold, .inl (Option.some.inj hrow)⟩
  · rw [hb] at hrow
    exact .inl ⟨old, hold, .inr ⟨(ctx.isRecovering_iff.1 hr).1, Option.some.inj hrow⟩⟩
  · rw [hb] at hrow
    cases hold : current.find? ctx.writerGroup w with
    | none =>
      rw [hold] at hrow
      exact .inr ⟨rfl, Option.some.inj hrow⟩
    | some old =>
      rw [hold] at hrow
      have hpin := BackendSet.isPinned_eq_false_of_find? hp hold
      exact .inl ⟨old, rfl, .inr ⟨hpin, Option.some.inj hrow⟩⟩

/-- The reader row of the writer is the current one or made to serve reads, and retired
after that or not. -/
theorem find?_plan_reader_self_cases (hne : ctx.writerGroup ≠ ctx.readerGroup)
    (hw : (ctx.plan current).writer = some w)
    (hb : (ctx.plan current).backends.find? ctx.readerGroup w = some b) :
    ∃ c, (current.find? ctx.readerGroup w = some c ∨
        c = ctx.servingReader w (current.find? ctx.readerGroup w)) ∧
      (b = c ∨ b = c.withStatus .offlineHard) := by
  obtain ⟨row, hrow, ho, -⟩ := ctx.find?_elect_self hne hw
  have hserving : ∀ c, (ctx.filled (ctx.elect current).1 (some w)).find? ctx.readerGroup w = some c →
      current.find? ctx.readerGroup w = some c ∨
        c = ctx.servingReader w (current.find? ctx.readerGroup w) := by
    intro c hc
    rw [ctx.find?_filled_self hne (ctx.isLiveWriter_of_online hrow ho), find?_convergeReaders_self,
      ctx.find?_elect_reader hne] at hc
    split at hc
    · split at hc
      · exact .inr (Option.some.inj hc).symm
      · exact .inl hc
    · split at hc
      · rw [servingReader_servingReader] at hc
        exact .inr (Option.some.inj hc).symm
      · exact .inr (Option.some.inj hc).symm
  rw [backends_plan, hw, find?_served_self] at hb
  split at hb
  · obtain ⟨c, hc, rfl⟩ := Option.map_eq_some_iff.1 hb
    exact ⟨c, hserving c hc, .inr rfl⟩
  · exact ⟨b, hserving b hb, .inl rfl⟩

/-! ## All rows -/

structure Kept (old new : Backend) : Prop where
  hostgroup : new.hostgroup = old.hostgroup
  addr : new.addr = old.addr
  tuning : old.SameTuning new
  outside : old.hostgroup ≠ ctx.writerGroup → old.hostgroup ≠ ctx.readerGroup → new = old
  role : new.annotation.role = old.annotation.role ∨
    (old.annotation.override ≠ some .offlineHard ∧
      ((old.hostgroup = ctx.writerGroup ∧ new.annotation.role = .writer) ∨
        (old.hostgroup = ctx.readerGroup ∧ new.annotation.role = .reader)))

structure AddedWriter (writer : Option Addr) (b : Backend) : Prop where
  hostgroup : b.hostgroup = ctx.writerGroup
  role : b.annotation.role = .writer
  addr : writer = some b.addr
  status : b.status = .online

structure AddedReader (writer : Option Addr) (b : Backend) : Prop where
  hostgroup : b.hostgroup = ctx.readerGroup
  role : b.annotation.role = .reader
  routable : ctx.health.health b.addr = .routable
  status : b.status = .online ∨ (b.status = .offlineHard ∧ writer = some b.addr)

structure Added (writer : Option Addr) (b : Backend) : Prop where
  untuned : b.Untuned
  place : ctx.AddedWriter writer b ∨ ctx.AddedReader writer b

variable {ctx} {writer : Option Addr}

theorem added_newWriter (hw : writer = some a) :
    ctx.Added writer (Backend.new ctx.writerGroup a .writer) :=
  ⟨Backend.untuned_new .., .inl ⟨rfl, rfl, hw, rfl⟩⟩

theorem added_newReader (hh : ctx.health.health a = .routable) :
    ctx.Added writer (Backend.new ctx.readerGroup a .reader) :=
  ⟨Backend.untuned_new .., .inr ⟨rfl, rfl, hh, .inl rfl⟩⟩

theorem added_retiredReader (hw : writer = some a) (hh : ctx.health.health a = .routable) :
    ctx.Added writer (Backend.new ctx.readerGroup a .reader .offlineHard) :=
  ⟨Backend.untuned_new .., .inr ⟨rfl, rfl, hh, .inr ⟨rfl, hw⟩⟩⟩

variable (ctx)

theorem tended_plan_writer (hne : ctx.writerGroup ≠ ctx.readerGroup)
    (hold : current.find? ctx.writerGroup a = some old)
    (hnew : (ctx.plan current).backends.find? ctx.writerGroup a = some new) :
    Backend.Tended .writer old new := by
  by_cases hw : (ctx.plan current).writer = some a
  · rcases ctx.find?_plan_writer_cases hne hw hnew with ⟨c, hc, hrow⟩ | ⟨hnone, -⟩
    · obtain rfl : old = c := Option.some.inj (hold.symm.trans hc)
      rcases hrow with rfl | ⟨hp, rfl⟩
      · exact Backend.tended_refl _ _
      · exact Backend.tended_withRole _ hp _
    · rw [hold] at hnone
      cases hnone
  · rw [ctx.find?_plan_of_ne hne hw, hold] at hnew
    obtain rfl := Option.some.inj hnew
    exact old.tended_withStatus _ _

theorem tended_plan_reader (hne : ctx.writerGroup ≠ ctx.readerGroup) (hd : ctx.health.Distinct)
    (hold : current.find? ctx.readerGroup a = some old)
    (hnew : (ctx.plan current).backends.find? ctx.readerGroup a = some new) :
    Backend.Tended .reader old new := by
  by_cases hw : (ctx.plan current).writer = some a
  · obtain ⟨c, hc, hrow⟩ := ctx.find?_plan_reader_self_cases hne hw hnew
    have htended : Backend.Tended .reader old c := by
      rw [hold] at hc
      rcases hc with hc | rfl
      · obtain rfl := Option.some.inj hc
        exact Backend.tended_refl _ _
      · exact ctx.tended_servingReader a old
    rcases hrow with rfl | rfl
    · exact htended
    · exact htended.trans (c.tended_withStatus _ _)
  · rcases ctx.plan_reader_cases hne hd hw hnew with ⟨c, hc, rfl⟩ | ⟨hnone, -⟩
    · obtain rfl : old = c := Option.some.inj (hold.symm.trans hc)
      exact ctx.tended_readerTarget _ old
    · rw [hold] at hnone
      cases hnone

theorem kept_plan (hne : ctx.writerGroup ≠ ctx.readerGroup) (hd : ctx.health.Distinct)
    (hold : current.find? g a = some old)
    (hnew : (ctx.plan current).backends.find? g a = some new) : ctx.Kept old new := by
  obtain ⟨-, hg, ha⟩ := BackendSet.find?_eq_some_iff.1 hold
  obtain ⟨-, hg', ha'⟩ := BackendSet.find?_eq_some_iff.1 hnew
  have hreworked : old.Reworked new := (ctx.reshaped_plan current).reworked hold hnew
  refine ⟨hg'.trans hg.symm, ha'.trans ha.symm, hreworked.sameTuning, ?_, ?_⟩
  · rw [hg]
    intro hw hr
    rw [ctx.find?_plan_other hne hw hr, hold] at hnew
    exact (Option.some.inj hnew).symm
  · rw [hg]
    by_cases hw : g = ctx.writerGroup
    · subst hw
      rcases (ctx.tended_plan_writer hne hold hnew).role with hsame | ⟨hp, hrole⟩
      · exact .inl hsame
      · exact .inr ⟨Backend.override_ne_of_unpinned hp, .inl ⟨rfl, hrole⟩⟩
    · by_cases hr : g = ctx.readerGroup
      · subst hr
        rcases (ctx.tended_plan_reader hne hd hold hnew).role with hsame | ⟨hp, hrole⟩
        · exact .inl hsame
        · exact .inr ⟨Backend.override_ne_of_unpinned hp, .inr ⟨rfl, hrole⟩⟩
      · rw [ctx.find?_plan_other hne hw hr, hold] at hnew
        obtain rfl := Option.some.inj hnew
        exact .inl rfl

theorem added_plan (hne : ctx.writerGroup ≠ ctx.readerGroup) (hd : ctx.health.Distinct)
    (hold : current.find? g a = none)
    (hnew : (ctx.plan current).backends.find? g a = some new) :
    ctx.Added (ctx.plan current).writer new := by
  have hg := ((ctx.reshaped_plan current).added hnew hold).1
  rw [List.mem_pair] at hg
  by_cases hw : (ctx.plan current).writer = some a
  · have hh := ctx.routable_of_elect hne hd hw
    rcases hg with rfl | rfl
    · rcases ctx.find?_plan_writer_cases hne hw hnew with ⟨c, hc, -⟩ | ⟨-, rfl⟩
      · rw [hold] at hc
        cases hc
      · exact added_newWriter hw
    · obtain ⟨c, hc, hrow⟩ := ctx.find?_plan_reader_self_cases hne hw hnew
      rw [hold] at hc
      rcases hc with hc | rfl
      · cases hc
      · rcases hrow with rfl | rfl
        · exact added_newReader hh
        · exact added_retiredReader hw hh
  · rcases hg with rfl | rfl
    · rw [ctx.find?_plan_of_ne hne hw, hold] at hnew
      cases hnew
    · rcases ctx.plan_reader_cases hne hd hw hnew with ⟨c, hc, -⟩ | ⟨-, hh, rfl⟩
      · rw [hold] at hc
        cases hc
      · exact added_newReader hh

/-- A plan keeps every current row in its place and touches only what it may of it. Behind
them it adds rows with new keys, each with the default columns and no override: the online
row of the writer, or a row for reads at a routable node. -/
theorem plan_footprint (hne : ctx.writerGroup ≠ ctx.readerGroup) (hd : ctx.health.Distinct)
    (current : BackendSet) :
    ∃ kept added, (ctx.plan current).backends.rows = kept ++ added ∧
      List.Forall₂ ctx.Kept current.rows kept ∧
      (current.keys ++ added.map Backend.key).Nodup ∧
      ∀ b ∈ added, ctx.Added (ctx.plan current).writer b := by
  obtain ⟨kept, added, hrows, hkept, hnew⟩ :=
    Table.exists_rows_of_prefix_keys (ctx.prefix_keys_plan current)
      fun {k _ _} hold hnew => ctx.kept_plan (g := k.hostgroup) (a := k.addr) hne hd hold hnew
  refine ⟨kept, added, hrows, hkept, ?_, ?_⟩
  · have hnodup := (ctx.plan current).backends.nodup
    rw [hrows, List.map_append, List.nodup_append] at hnodup
    refine List.nodup_append.2 ⟨current.nodup, hnodup.2.1, ?_⟩
    rintro k hk l hl rfl
    obtain ⟨b, hb, rfl⟩ := List.mem_map.1 hl
    obtain ⟨c, hc⟩ := Table.mem_keys_iff.1 hk
    rw [hnew b hb] at hc
    cases hc
  · intro b hb
    have hmem : b ∈ (ctx.plan current).backends.rows := hrows ▸ List.mem_append_right kept hb
    exact ctx.added_plan hne hd (hnew b hb) (BackendSet.find?_of_mem hmem)

def tunedRows : BackendSet :=
  Table.ofList [Backend.new 20 ⟨"db9", 3306⟩ .none .shunned,
    { Backend.new 11 ⟨"db3", 3306⟩ .writer with
      weight := 5, annotation := ⟨.writer, some .offlineHard⟩ },
    Backend.new 10 ⟨"db1", 3306⟩ .none]

theorem plan_footprint_of_tunedRows :
    let kept : List Backend :=
      [⟨20, ⟨"db9", 3306⟩, .shunned, 1, 0, 10000, 0, false, 0, ⟨.none, none⟩⟩,
        ⟨11, ⟨"db3", 3306⟩, .offlineHard, 5, 0, 10000, 0, false, 0, ⟨.writer, some .offlineHard⟩⟩,
        ⟨10, ⟨"db1", 3306⟩, .offlineHard, 1, 0, 10000, 0, false, 0, ⟨.none, none⟩⟩]
    let added : List Backend :=
      [⟨10, ⟨"db2", 3306⟩, .online, 1, 0, 10000, 0, false, 0, ⟨.writer, none⟩⟩,
        ⟨11, ⟨"db2", 3306⟩, .online, 1, 0, 10000, 0, false, 0, ⟨.reader, none⟩⟩,
        ⟨11, ⟨"db1", 3306⟩, .online, 1, 0, 10000, 0, false, 0, ⟨.reader, none⟩⟩]
    threeSynced.writerGroup ≠ threeSynced.readerGroup ∧ threeSynced.health.Distinct ∧
      (threeSynced.plan tunedRows).backends.rows = kept ++ added ∧
      List.Forall₂ threeSynced.Kept tunedRows.rows kept ∧
      (tunedRows.keys ++ added.map Backend.key).Nodup ∧
      ∀ b ∈ added, threeSynced.Added (some ⟨"db2", 3306⟩) b := by
  intro kept added
  have hne : threeSynced.writerGroup ≠ threeSynced.readerGroup := by decide
  have hd : threeSynced.health.Distinct := by
    unfold HealthMap.Distinct
    decide
  have hwriter : (threeSynced.plan tunedRows).writer = some ⟨"db2", 3306⟩ := by decide
  have hrows : (threeSynced.plan tunedRows).backends.rows = kept ++ added := by decide
  obtain ⟨kept', added', hsplit, hkept, hnodup, hadded⟩ :=
    plan_footprint threeSynced hne hd tunedRows
  have hlength : kept'.length = kept.length := hkept.length_eq.symm
  obtain ⟨rfl, rfl⟩ := List.append_inj (hsplit.symm.trans hrows) hlength
  rw [hwriter] at hadded
  exact ⟨hne, hd, hrows, hkept, hnodup, hadded⟩

end PlanContext

end SingleWriter
