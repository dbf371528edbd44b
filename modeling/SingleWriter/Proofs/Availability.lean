import SingleWriter.Proofs.Steady

/-!
# Reads under a writer

While there is a writer, some reader row is online, unless the one row that would have to
serve is the writer's own and is pinned. The writer reads beside others only as long as it
must: at most one other reader row is in service then, or all the others are draining.
-/

set_option autoImplicit false

namespace SingleWriter

namespace BackendSet

variable {s : BackendSet} {g : UInt32} {w d : Addr}

def liveBeside (s : BackendSet) (g : UInt32) (w : Addr) : List Backend :=
  (s.liveIn g).filter (·.addr ≠ w)

theorem mem_liveBeside {b : Backend} :
    b ∈ s.liveBeside g w ↔ s.find? g b.addr = some b ∧ b.isRemoved = false ∧ b.addr ≠ w := by
  simp [liveBeside, mem_liveIn, and_assoc]

theorem length_liveBeside_lt (h : s.LiveAt g w) :
    (s.liveBeside g w).length < (s.liveIn g).length := by
  obtain ⟨b, hb, hr⟩ := h
  obtain rfl := (find?_eq_some_iff.1 hb).2.2
  rw [liveBeside, List.length_filter_lt_length_iff_exists]
  exact ⟨b, mem_liveIn.2 ⟨hb, hr⟩, by simp⟩

/-- Rows that are all at one address are at most one row. -/
theorem length_liveBeside_le_one (h : ∀ a, s.LiveAt g a → a ≠ w → a = d) :
    (s.liveBeside g w).length ≤ 1 := by
  have hnodup : ((s.liveBeside g w).map Backend.addr).Nodup :=
    (List.Sublist.map Backend.addr List.filter_sublist).nodup (nodup_addr_filter s g _)
  have hsub : (s.liveBeside g w).map Backend.addr ⊆ [d] := by
    intro a ha
    obtain ⟨b, hb, rfl⟩ := List.mem_map.1 ha
    obtain ⟨hrow, hr, hne⟩ := mem_liveBeside.1 hb
    exact List.mem_singleton.2 (h b.addr ⟨b, hrow, hr⟩ hne)
  simpa using (hnodup.subperm hsub).length_le

end BackendSet

namespace PlanContext

variable (ctx : PlanContext) {current : BackendSet} {a w : Addr} {b : Backend}

/-- A reader row beside the writer that is in service, and neither the donor's nor fit to
serve, is draining. -/
theorem plan_reader_draining (hne : ctx.writerGroup ≠ ctx.readerGroup) (hd : ctx.health.Distinct)
    (hw : (ctx.plan current).writer ≠ some a)
    (hdonor : ctx.donorFor (ctx.plan current).backends (ctx.plan current).writer ≠ some a)
    (hb : (ctx.plan current).backends.find? ctx.readerGroup a = some b)
    (hr : b.isRemoved = false)
    (hfit : ¬ (b.isPinned = false ∧ ctx.health.health a = .routable)) :
    b.status = .offlineSoft := by
  have haddr := (BackendSet.find?_eq_some_iff.1 hb).2.2
  rw [backends_plan, ctx.find?_served_of_ne hw, ← backends_plan] at hb
  simp only [if_neg hdonor, Option.map_id'] at hb
  have hfollow := ctx.followHealth_of_filled hne hd hw hb
  by_contra hs
  have hserves := (ctx.serves_iff_of_followHealth hfollow).1 ⟨hr, hs⟩
  rw [haddr] at hserves
  exact hfit hserves

/-- Some reader row is online, unless the writer would have to read and its row is pinned. -/
theorem online_reader_or_pinned (hne : ctx.writerGroup ≠ ctx.readerGroup)
    (hd : ctx.health.Distinct) (hw : (ctx.plan current).writer = some w) :
    (∃ a, (ctx.plan current).backends.OnlineAt ctx.readerGroup a) ∨
      ∃ b, (ctx.plan current).backends.find? ctx.readerGroup w = some b ∧ b.isPinned = true := by
  cases helse : ctx.readsElsewhere (ctx.plan current).backends w with
  | true =>
    obtain ⟨o, b, ho, hb, hp, hh⟩ := ctx.readsElsewhere_iff.1 helse
    have hother : (ctx.plan current).writer ≠ some o := by
      rw [hw]
      exact fun h => ho (Option.some.inj h).symm
    obtain ⟨honline, -⟩ := ctx.plan_reader_routable hne hd hother hb hp hh
    exact .inl ⟨o, b, hb, Backend.isOnline_iff.2 honline⟩
  | false =>
    obtain ⟨b, hb, hserving⟩ := ctx.covered_plan hne hd hw helse
    by_cases hp : b.isPinned = true
    · exact .inr ⟨b, hb, hp⟩
    · refine .inl ⟨w, b, hb, ?_⟩
      rw [← hserving, servingReader, if_neg hp]
      rfl

/-- Where the writer reads, at most one other row is in service or all others are draining. -/
theorem spare_or_draining (hne : ctx.writerGroup ≠ ctx.readerGroup) (hd : ctx.health.Distinct)
    (hw : (ctx.plan current).writer = some w)
    (hlive : (ctx.plan current).backends.LiveAt ctx.readerGroup w) :
    ((ctx.plan current).backends.liveBeside ctx.readerGroup w).length ≤ 1 ∨
      ∀ b ∈ (ctx.plan current).backends.liveBeside ctx.readerGroup w, b.status = .offlineSoft := by
  cases helse : ctx.readsElsewhere (ctx.plan current).backends w with
  | true =>
    have hlength := ctx.spare_plan hne hd hw hlive helse
    have hless := BackendSet.length_liveBeside_lt hlive
    exact .inl (by omega)
  | false =>
    cases hdonor : ctx.donorFor (ctx.plan current).backends (ctx.plan current).writer with
    | some d =>
      -- A donor is looked for only where no third address is in service at all.
      obtain ⟨v, hv, -, -, hall⟩ := ctx.donorFor_eq_some_iff.1 hdonor
      obtain rfl : w = v := Option.some.inj (hw.symm.trans hv)
      refine .inl (BackendSet.length_liveBeside_le_one (d := d) ?_)
      rintro a ⟨b, hb, hr⟩ ha
      exact ((hall a).1 ⟨ctx.readerGroup, b, hb, hr⟩).resolve_left ha
    | none =>
      refine .inr fun b hb => ?_
      obtain ⟨hrow, hr, hbw⟩ := BackendSet.mem_liveBeside.1 hb
      have hother : (ctx.plan current).writer ≠ some b.addr := by
        rw [hw]
        exact fun h => hbw (Option.some.inj h).symm
      refine ctx.plan_reader_draining hne hd hother (by simp [hdonor]) hrow hr ?_
      rintro ⟨hp, hh⟩
      rw [ctx.readsElsewhere_iff.2 ⟨b.addr, b, hbw, hrow, hp, hh⟩] at helse
      cases helse

/-- Reads stay available under a writer, and the writer is kept out of them where it can be. -/
theorem plan_serves_reads (hne : ctx.writerGroup ≠ ctx.readerGroup) (hd : ctx.health.Distinct)
    (current : BackendSet) (hw : (ctx.plan current).writer = some w) :
    ((∃ a, (ctx.plan current).backends.OnlineAt ctx.readerGroup a) ∨
      ∃ b, (ctx.plan current).backends.find? ctx.readerGroup w = some b ∧ b.isPinned = true) ∧
    ((ctx.plan current).backends.LiveAt ctx.readerGroup w →
      ((ctx.plan current).backends.liveBeside ctx.readerGroup w).length ≤ 1 ∨
        ∀ b ∈ (ctx.plan current).backends.liveBeside ctx.readerGroup w,
          b.status = .offlineSoft) :=
  ⟨ctx.online_reader_or_pinned hne hd hw, ctx.spare_or_draining hne hd hw⟩

def donorsAround : PlanContext where
  writerGroup := 10
  readerGroup := 11
  health := HealthMap.ofProbes .synced [
    ⟨⟨"db1", 3306⟩, .ok { syncedNode "db1" with state := .donor, rejectsAsDonor := true }⟩,
    syncedProbe "db2",
    ⟨⟨"db3", 3306⟩, .ok { syncedNode "db3" with state := .donor, rejectsAsDonor := true }⟩]
  blacklist := {}

def threeReaders : BackendSet :=
  Table.ofList [Backend.new 10 ⟨"db2", 3306⟩ .writer, Backend.new 11 ⟨"db1", 3306⟩ .reader,
    Backend.new 11 ⟨"db2", 3306⟩ .reader, Backend.new 11 ⟨"db3", 3306⟩ .reader]

/-- The writer keeps reading while both others drain. -/
theorem plan_serves_reads_of_threeReaders :
    donorsAround.writerGroup ≠ donorsAround.readerGroup ∧ donorsAround.health.Distinct ∧
    (donorsAround.plan threeReaders).writer = some ⟨"db2", 3306⟩ ∧
    (donorsAround.plan threeReaders).backends.LiveAt 11 ⟨"db2", 3306⟩ ∧
    ((donorsAround.plan threeReaders).backends.liveBeside 11 ⟨"db2", 3306⟩).length = 2 ∧
    ∀ b ∈ (donorsAround.plan threeReaders).backends.liveBeside 11 ⟨"db2", 3306⟩,
      b.status = .offlineSoft := by
  have hne : donorsAround.writerGroup ≠ donorsAround.readerGroup := by decide
  have hd : donorsAround.health.Distinct := by
    unfold HealthMap.Distinct
    decide
  have hw : (donorsAround.plan threeReaders).writer = some ⟨"db2", 3306⟩ := by decide
  have hlive : (donorsAround.plan threeReaders).backends.LiveAt 11 ⟨"db2", 3306⟩ :=
    ⟨Backend.new 11 ⟨"db2", 3306⟩ .reader, by decide, rfl⟩
  have htwo : ((donorsAround.plan threeReaders).backends.liveBeside 11 ⟨"db2", 3306⟩).length = 2 := by
    decide
  refine ⟨hne, hd, hw, hlive, htwo, ?_⟩
  rcases (plan_serves_reads donorsAround hne hd threeReaders hw).2 hlive with hfew | hdraining
  · exact absurd hfew (by rw [show donorsAround.readerGroup = 11 from rfl, htwo]; decide)
  · exact hdraining

end PlanContext

end SingleWriter
