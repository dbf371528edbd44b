import SingleWriter.Proofs.Targets

/-!
# The writer's own reader row

The one reader row that does not follow its node is the writer's. Reads are served
elsewhere when another routable node has a reader row without a pin. Where they are not,
the writer serves reads too; where they are, its row is left as it is found, until more
than two reader rows are in service and it is retired.
-/

set_option autoImplicit false

namespace SingleWriter

namespace BackendSet

variable {s t : BackendSet} {g : UInt32} {a x y : Addr}

def LiveAt (s : BackendSet) (g : UInt32) (a : Addr) : Prop :=
  ∃ b, s.find? g a = some b ∧ b.isRemoved = false

theorem mem_addr_liveIn : a ∈ (s.liveIn g).map Backend.addr ↔ s.LiveAt g a := by
  constructor
  · intro h
    obtain ⟨b, hb, rfl⟩ := List.mem_map.1 h
    exact ⟨b, mem_liveIn.1 hb⟩
  · rintro ⟨b, hb, hr⟩
    obtain rfl := (find?_eq_some_iff.1 hb).2.2
    exact List.mem_map.2 ⟨b, mem_liveIn.2 ⟨hb, hr⟩, rfl⟩

theorem liveAt_congr {f : Backend → Backend} (h : t.find? g a = (s.find? g a).map f)
    (hf : ∀ b, s.find? g a = some b → (f b).isRemoved = b.isRemoved) :
    t.LiveAt g a ↔ s.LiveAt g a := by
  rw [LiveAt, LiveAt, h]
  constructor
  · rintro ⟨c, hc, hr⟩
    obtain ⟨b, hb, rfl⟩ := Option.map_eq_some_iff.1 hc
    exact ⟨b, hb, by rwa [hf b hb] at hr⟩
  · rintro ⟨b, hb, hr⟩
    exact ⟨f b, by rw [hb]; rfl, by rwa [hf b hb]⟩

theorem length_liveIn_le (h : ∀ a, s.LiveAt g a → t.LiveAt g a) :
    (s.liveIn g).length ≤ (t.liveIn g).length := by
  apply length_filter_inHostgroup_le
  intro a b hb hl
  obtain ⟨c, hc, hr⟩ := h a ⟨b, hb, by simpa using hl⟩
  exact ⟨c, hc, by simp [hr]⟩

/-- Beside two live rows there is a third one exactly when there are more than two. -/
theorem two_lt_length_liveIn_iff (hx : s.LiveAt g x) (hy : s.LiveAt g y) (hxy : x ≠ y) :
    2 < (s.liveIn g).length ↔ ∃ z, s.LiveAt g z ∧ z ≠ x ∧ z ≠ y := by
  have hnodup : ((s.liveIn g).map Backend.addr).Nodup := nodup_addr_filter s g _
  rw [← List.length_map (f := Backend.addr)]
  constructor
  · intro hlen
    by_contra hno
    have hsub : (s.liveIn g).map Backend.addr ⊆ [x, y] := by
      intro z hz
      by_contra hzxy
      simp only [List.mem_cons, List.not_mem_nil, or_false, not_or] at hzxy
      exact hno ⟨z, mem_addr_liveIn.1 hz, hzxy⟩
    have hle := (hnodup.subperm hsub).length_le
    simp only [List.length_cons, List.length_nil] at hle
    omega
  · rintro ⟨z, hz, hzx, hzy⟩
    have hthree : [x, y, z].Nodup := by simp [hxy, Ne.symm hzx, Ne.symm hzy]
    have hsub : [x, y, z] ⊆ (s.liveIn g).map Backend.addr := by
      intro v hv
      simp only [List.mem_cons, List.not_mem_nil, or_false] at hv
      rcases hv with rfl | rfl | rfl
      · exact mem_addr_liveIn.2 hx
      · exact mem_addr_liveIn.2 hy
      · exact mem_addr_liveIn.2 hz
    exact (hthree.subperm hsub).length_le

end BackendSet

namespace PlanContext

variable (ctx : PlanContext) {s t : BackendSet} {a w : Addr} {b : Backend}

/-! ## Rows that follow their nodes -/

theorem followHealth_followHealth (b : Backend) :
    ctx.followHealth (ctx.followHealth b) = ctx.followHealth b := by
  by_cases hp : b.isPinned = true
  · rw [ctx.followHealth_of_pinned hp]
    exact ctx.followHealth_of_pinned hp
  · have hp' : b.isPinned = false := by simpa using hp
    cases hh : ctx.health.health b.addr with
    | routable =>
      rw [ctx.followHealth_of_routable hp' hh]
      exact ctx.followHealth_of_routable hp' hh
    | unfit =>
      rw [ctx.followHealth_of_unfit hp' hh]
      by_cases hr : b.isRemoved = true
      · rw [if_pos hr, ctx.followHealth_of_unfit hp' hh, if_pos hr]
      · rw [if_neg hr]
        exact ctx.followHealth_of_unfit hp' hh
    | unreachable =>
      rw [ctx.followHealth_of_gone (.inl hh)]
      exact ctx.followHealth_of_gone (.inl hh)
    | absent =>
      rw [ctx.followHealth_of_gone (.inr hh)]
      exact ctx.followHealth_of_gone (.inr hh)

theorem isOnline_followHealth_iff :
    (ctx.followHealth b).isOnline = true ↔
      b.isPinned = false ∧ ctx.health.health b.addr = .routable := by
  constructor
  · intro h
    refine ⟨?_, ctx.followHealth_online h⟩
    by_contra hp
    rw [ctx.followHealth_of_pinned (by simpa using hp)] at h
    cases h
  · rintro ⟨hp, hh⟩
    rw [ctx.followHealth_of_routable hp hh]
    rfl

/-- A row that follows its node is online once it is in service and not draining. -/
theorem serves_iff_of_followHealth (h : ctx.followHealth b = b) :
    b.isRemoved = false ∧ b.status ≠ .offlineSoft ↔
      b.isPinned = false ∧ ctx.health.health b.addr = .routable := by
  rw [← ctx.isOnline_followHealth_iff, h, Backend.isOnline_iff]
  constructor
  · rintro ⟨hr, hs⟩
    by_contra ho
    have hstatus : (ctx.followHealth b).status = .online ∨
        (ctx.followHealth b).status = .offlineSoft ∨ (ctx.followHealth b).isRemoved = true := by
      unfold followHealth
      split
      · exact .inr (.inr rfl)
      · split
        · exact .inl rfl
        · split
          · exact .inr (.inr ‹_›)
          · exact .inr (.inl rfl)
        · exact .inr (.inr rfl)
        · exact .inr (.inr rfl)
    rw [h] at hstatus
    rcases hstatus with h1 | h1 | h1
    · exact ho h1
    · exact hs h1
    · rw [hr] at h1
      cases h1
  · intro ho
    simp [Backend.isRemoved, ho]

theorem followHealth_of_filled (hne : ctx.writerGroup ≠ ctx.readerGroup)
    (hd : ctx.health.Distinct) {writer : Option Addr} (hw : writer ≠ some a)
    (hb : (ctx.filled s writer).find? ctx.readerGroup a = some b) : ctx.followHealth b = b := by
  rw [filled, ctx.find?_fillReaders hne] at hb
  split at hb
  · rename_i hfill
    cases hb
    exact ctx.followHealth_new ((HealthMap.mem_candidates_iff hd).1 hfill.2.1)
  · rw [ctx.find?_convergeReaders_of_ne hw] at hb
    obtain ⟨c, -, rfl⟩ := Option.map_eq_some_iff.1 hb
    exact ctx.followHealth_followHealth c

/-! ## Reads served elsewhere -/

def readsElsewhere (s : BackendSet) (w : Addr) : Bool :=
  (s.inHostgroup ctx.readerGroup).any fun b =>
    b.addr ≠ w && !b.isPinned && ctx.health.health b.addr = .routable

theorem readsElsewhere_iff :
    ctx.readsElsewhere s w = true ↔
      ∃ o b, o ≠ w ∧ s.find? ctx.readerGroup o = some b ∧ b.isPinned = false ∧
        ctx.health.health o = .routable := by
  simp only [readsElsewhere, List.any_eq_true, Bool.and_eq_true, decide_eq_true_eq,
    Bool.not_eq_true']
  constructor
  · rintro ⟨b, hb, ⟨ho, hp⟩, hh⟩
    exact ⟨b.addr, b, ho, BackendSet.mem_inHostgroup.1 hb, hp, hh⟩
  · rintro ⟨o, b, ho, hb, hp, hh⟩
    obtain rfl := (BackendSet.find?_eq_some_iff.1 hb).2.2
    exact ⟨b, BackendSet.mem_inHostgroup.2 hb, ⟨ho, hp⟩, hh⟩

/-- Rows that are added do not take reads away. -/
theorem readsElsewhere_of_reshaped {groups : List UInt32} (h : BackendSet.Reshaped groups s t)
    (hs : ctx.readsElsewhere s w = true) : ctx.readsElsewhere t w = true := by
  rw [readsElsewhere_iff] at hs ⊢
  obtain ⟨o, b, ho, hb, hp, hh⟩ := hs
  obtain ⟨c, hc, hbc⟩ := h.kept hb
  exact ⟨o, c, ho, hc, by rw [hbc.isPinned_eq, hp], hh⟩

theorem readsElsewhere_congr (f : Addr → Backend → Backend)
    (hf : ∀ o (b : Backend), b.Reworked (f o b))
    (h : ∀ o, o ≠ w → t.find? ctx.readerGroup o = (s.find? ctx.readerGroup o).map (f o)) :
    ctx.readsElsewhere t w = ctx.readsElsewhere s w := by
  rw [Bool.eq_iff_iff, readsElsewhere_iff, readsElsewhere_iff]
  constructor
  · rintro ⟨o, c, ho, hc, hp, hh⟩
    rw [h o ho] at hc
    obtain ⟨b, hb, rfl⟩ := Option.map_eq_some_iff.1 hc
    exact ⟨o, b, ho, hb, by rw [← (hf o b).isPinned_eq, hp], hh⟩
  · rintro ⟨o, b, ho, hb, hp, hh⟩
    refine ⟨o, f o b, ho, ?_, by rw [(hf o b).isPinned_eq, hp], hh⟩
    rw [h o ho, hb]
    rfl

/-! ## Fallback -/

theorem any_online_settledReaders (s : BackendSet) (w : Addr) :
    ((ctx.settledReaders s (some w)).onlineIn ctx.readerGroup).any (·.addr ≠ w) =
      ctx.readsElsewhere s w := by
  have hrow : ∀ o, o ≠ w → (ctx.settledReaders s (some w)).find? ctx.readerGroup o =
      (s.find? ctx.readerGroup o).map ctx.followHealth := by
    intro o ho
    rw [find?_settledReaders, if_pos ⟨rfl, fun h => ho (Option.some.inj h).symm⟩]
  rw [Bool.eq_iff_iff, readsElsewhere_iff]
  simp only [List.any_eq_true, decide_eq_true_eq]
  constructor
  · rintro ⟨c, hc, ho⟩
    obtain ⟨hc, honline⟩ := BackendSet.mem_onlineIn.1 hc
    rw [hrow _ ho] at hc
    obtain ⟨b, hb, hbc⟩ := Option.map_eq_some_iff.1 hc
    rw [← hbc] at honline
    obtain ⟨hp, hh⟩ := ctx.isOnline_followHealth_iff.1 honline
    rw [(BackendSet.find?_eq_some_iff.1 hb).2.2] at hh
    exact ⟨c.addr, b, ho, hb, hp, hh⟩
  · rintro ⟨o, b, ho, hb, hp, hh⟩
    have haddr := (BackendSet.find?_eq_some_iff.1 hb).2.2
    have hfound : (ctx.settledReaders s (some w)).find? ctx.readerGroup o =
        some (ctx.followHealth b) := by
      rw [hrow o ho, hb]
      rfl
    have hco := (BackendSet.find?_eq_some_iff.1 hfound).2.2
    refine ⟨ctx.followHealth b, BackendSet.mem_onlineIn.2 ⟨?_, ?_⟩, ?_⟩
    · rw [hco, hfound]
    · rw [isOnline_followHealth_iff, haddr]
      exact ⟨hp, hh⟩
    · rw [hco]
      exact ho

theorem find?_convergeReaders_self (s : BackendSet) (w : Addr) :
    (ctx.convergeReaders s (some w)).find? ctx.readerGroup w =
      if ctx.readsElsewhere s w then s.find? ctx.readerGroup w
      else some (ctx.servingReader w (s.find? ctx.readerGroup w)) := by
  have hset := ctx.find?_settledReaders s (some w) ctx.readerGroup w
  rw [if_neg (fun h => h.2 rfl)] at hset
  change (ctx.fallback (ctx.settledReaders s (some w)) w).find? ctx.readerGroup w = _
  rw [find?_fallback, any_online_settledReaders, hset]
  cases ctx.readsElsewhere s w <;> simp

theorem isLiveWriter_of_online (hb : s.find? ctx.writerGroup a = some b)
    (ho : b.isOnline = true) : ctx.isLiveWriter s a = true := by
  simp [isLiveWriter, hb, Backend.isRemoved_of_isOnline ho]

/-- A node with a live writer row is not given a reader row. -/
theorem find?_filled_self (hne : ctx.writerGroup ≠ ctx.readerGroup)
    (hw : ctx.isLiveWriter s w = true) :
    (ctx.filled s (some w)).find? ctx.readerGroup w =
      (ctx.convergeReaders s (some w)).find? ctx.readerGroup w := by
  have hlive : ctx.isLiveWriter (ctx.convergeReaders s (some w)) w = true := by
    rw [isLiveWriter, ctx.find?_convergeReaders_outside _ hne]
    exact hw
  rw [filled, ctx.find?_fillReaders hne, if_neg]
  simp [lacksReader, hlive]

/-! ## Retirement -/

def Retires (s : BackendSet) (w : Addr) : Prop :=
  (s.find? ctx.readerGroup w).any (fun b => !b.isRemoved) = true ∧
    2 < (s.liveIn ctx.readerGroup).length ∧
    (s.liveIn ctx.readerGroup).any (fun b => b.addr ≠ w ∧ b.status ≠ .offlineSoft) = true

instance (s : BackendSet) (w : Addr) : Decidable (ctx.Retires s w) :=
  inferInstanceAs (Decidable (_ ∧ _ ∧ _))

theorem find?_retireWriterReader_self (s : BackendSet) (w : Addr) :
    (ctx.retireWriterReader s w).find? ctx.readerGroup w =
      if ctx.Retires s w then (s.find? ctx.readerGroup w).map (Backend.withStatus .offlineHard)
      else s.find? ctx.readerGroup w := by
  by_cases h : ctx.Retires s w
  · have hset : ctx.retireWriterReader s w = s.setStatus (ctx.readerKey w) .offlineHard := if_pos h
    have hrow := BackendSet.find?_setStatus s ctx.readerGroup w .offlineHard ctx.readerGroup w
    rw [if_pos ⟨rfl, rfl⟩] at hrow
    rw [if_pos h, hset, ← hrow]
    rfl
  · have hset : ctx.retireWriterReader s w = s := if_neg h
    rw [if_neg h, hset]

/-- After the readers were filled, the others in service serve reads or drain. -/
theorem retires_filled_iff (hne : ctx.writerGroup ≠ ctx.readerGroup) (hd : ctx.health.Distinct)
    (s : BackendSet) (w : Addr) :
    ctx.Retires (ctx.filled s (some w)) w ↔
      (ctx.filled s (some w)).LiveAt ctx.readerGroup w ∧
        2 < ((ctx.filled s (some w)).liveIn ctx.readerGroup).length ∧
        ctx.readsElsewhere (ctx.filled s (some w)) w = true := by
  -- Rows beside the writer follow their nodes, so one that is live and not draining serves.
  have hothers : ((ctx.filled s (some w)).liveIn ctx.readerGroup).any
      (fun b => b.addr ≠ w ∧ b.status ≠ .offlineSoft) = true ↔
        ctx.readsElsewhere (ctx.filled s (some w)) w = true := by
    rw [readsElsewhere_iff]
    simp only [List.any_eq_true, decide_eq_true_eq, BackendSet.mem_liveIn]
    constructor
    · rintro ⟨b, ⟨hb, hr⟩, ho, hs⟩
      have hfollow := ctx.followHealth_of_filled hne hd (fun h => ho (Option.some.inj h).symm) hb
      obtain ⟨hp, hh⟩ := (ctx.serves_iff_of_followHealth hfollow).1 ⟨hr, hs⟩
      exact ⟨b.addr, b, ho, hb, hp, hh⟩
    · rintro ⟨o, b, ho, hb, hp, hh⟩
      obtain rfl := (BackendSet.find?_eq_some_iff.1 hb).2.2
      have hfollow := ctx.followHealth_of_filled hne hd (fun h => ho (Option.some.inj h).symm) hb
      obtain ⟨hr, hs⟩ := (ctx.serves_iff_of_followHealth hfollow).2 ⟨hp, hh⟩
      exact ⟨b, ⟨hb, hr⟩, ho, hs⟩
  have hrow : ((ctx.filled s (some w)).find? ctx.readerGroup w).any (fun b => !b.isRemoved) = true ↔
      (ctx.filled s (some w)).LiveAt ctx.readerGroup w := by
    simp [BackendSet.LiveAt, Option.any_eq_true]
  rw [Retires, hothers, hrow]

/-! ## After all stages -/

theorem donorFor_ne (s : BackendSet) (w : Addr) : ctx.donorFor s (some w) ≠ some w := by
  intro h
  obtain ⟨v, hv, -, hne, -⟩ := ctx.donorFor_eq_some_iff.1 h
  exact hne (Option.some.inj hv)

theorem find?_served_self (s : BackendSet) (w : Addr) :
    (ctx.served s (some w)).find? ctx.readerGroup w =
      if ctx.Retires (ctx.filled s (some w)) w then
        ((ctx.filled s (some w)).find? ctx.readerGroup w).map (Backend.withStatus .offlineHard)
      else (ctx.filled s (some w)).find? ctx.readerGroup w := by
  change (ctx.promoteDonor (ctx.retireWriterReader (ctx.filled s (some w)) w) w).find?
    ctx.readerGroup w = _
  rw [find?_promoteDonor, if_neg (fun h => ctx.donorFor_ne _ w h.2), find?_retireWriterReader_self]

/-- Whether a reader row beside the writer is in service does not change any more. -/
theorem liveAt_served_iff_of_ne {writer : Option Addr} (hw : writer ≠ some a) :
    (ctx.served s writer).LiveAt ctx.readerGroup a ↔
      (ctx.filled s writer).LiveAt ctx.readerGroup a := by
  apply BackendSet.liveAt_congr (ctx.find?_served_of_ne hw)
  intro b _
  split
  · exact isRemoved_promotedRow b
  · rfl

theorem readsElsewhere_served (s : BackendSet) (w : Addr) :
    ctx.readsElsewhere (ctx.served s (some w)) w =
      ctx.readsElsewhere (ctx.filled s (some w)) w := by
  apply ctx.readsElsewhere_congr fun o b =>
    if ctx.donorFor (ctx.served s (some w)) (some w) = some o then promotedRow b else b
  · intro o b
    split
    · exact reworked_promotedRow b
    · exact b.reworked_refl
  · intro o ho
    exact ctx.find?_served_of_ne fun h => ho (Option.some.inj h).symm

end PlanContext

end SingleWriter
