import SingleWriter.Proofs.Blacklists
import SingleWriter.Proofs.Places

/-!
# Sitting writers

The sitting writer is the first online row of the writer hostgroup that is not pinned
and whose node is routable. It stays writer unless it has to stand back, and it stands
back for any candidate outside the blacklist, whether or not that candidate could be
writer. A node outside the blacklist takes over when it is pinned nowhere, or when its
own writer row is neither pinned nor removed. Where none can, the first eligible
candidate becomes writer, which is blacklisted too, and no writer is left where nothing
is eligible.
-/

set_option autoImplicit false

namespace SingleWriter.PlanContext

variable (ctx : PlanContext) {s current : BackendSet} {a x : Addr} {r : Backend}

/-! ## Online rows before the choice -/

def isSitting (b : Backend) : Bool :=
  !b.isPinned && b.isOnline && ctx.health.health b.addr = .routable

theorem staysOnline_eq (b : Backend) :
    ctx.staysOnline b = (ctx.isSitting b && !ctx.holdsBack b.addr) := rfl

/-- No node recovers as writer beside one that stays online. -/
theorem returner?_eq_none_of_staysOnline {b : Backend}
    (hb : s.find? ctx.writerGroup a = some b) (hs : ctx.staysOnline b = true) :
    ctx.returner? s = none := by
  have hrow : (ctx.settled s).find? ctx.writerGroup a =
      some (b.withStatus (ctx.settledStatus b)) := by
    rw [find?_settled_writer, hb]
    rfl
  have honline : ((ctx.settled s).onlineIn ctx.writerGroup).isEmpty ≠ true := by
    intro he
    have hoff := BackendSet.isEmpty_onlineIn_iff.1 he a _ hrow
    rw [ctx.settledStatus_of_staysOnline hs] at hoff
    cases hoff
  rw [returner?, returning?, if_neg honline]

/-- The rows that stay online keep their order, so that the first one is the writer. -/
theorem writer_of_find?_staysOnline (hne : ctx.writerGroup ≠ ctx.readerGroup)
    (hr : (s.inHostgroup ctx.writerGroup).find? ctx.staysOnline = some r) :
    (ctx.elect s).2 = some r.addr := by
  have hrow : s.find? ctx.writerGroup r.addr = some r :=
    BackendSet.mem_inHostgroup.1 (List.mem_of_find?_eq_some hr)
  have hnone := ctx.returner?_eq_none_of_staysOnline hrow (List.find?_some hr)
  have hrows : (ctx.recovered s).inHostgroup ctx.writerGroup =
      (s.inHostgroup ctx.writerGroup).map fun b =>
        if ctx.staysOnline b then b else ctx.rest b := by
    apply BackendSet.inHostgroup_eq_map (ctx.prefix_keys_recovered s)
    intro a
    rw [ctx.find?_recovered_writer hne, hnone]
    simp
  have honline : ∀ b, (if ctx.staysOnline b then b else ctx.rest b).isOnline =
      ctx.staysOnline b := by
    intro b
    by_cases hs : ctx.staysOnline b = true
    · rw [if_pos hs, hs]
      exact ctx.isOnline_of_staysOnline hs
    · rw [if_neg hs, rest, Backend.isOnline_withStatus, Bool.eq_false_iff.2 hs]
      exact decide_eq_false (ctx.restingStatus_ne_online b)
  have hfirst : ((ctx.recovered s).onlineIn ctx.writerGroup).head? = some r := by
    rw [BackendSet.onlineIn, List.head?_filter, hrows, List.find?_map,
      show (Backend.isOnline ∘ fun b => if ctx.staysOnline b then b else ctx.rest b) =
        ctx.staysOnline from funext honline, hr, Option.map_some, if_pos (List.find?_some hr)]
  rw [elect_eq]
  rcases ctx.electFrom_cases (ctx.recovered s) with ⟨kept, extra, ho, he⟩ | ⟨hnil, -⟩ | ⟨hnil, -⟩
  · have hkept : (((ctx.recovered s).onlineIn ctx.writerGroup).map Backend.addr).head? =
        some kept := by rw [ho, List.head?_cons]
    rw [List.head?_map, hfirst, Option.map_some] at hkept
    rw [he, ← hkept]
  · rw [hnil] at hfirst
    cases hfirst
  · rw [hnil] at hfirst
    cases hfirst

/-- The first sitting writer is kept when it need not stand back. -/
theorem writer_of_find?_isSitting (hne : ctx.writerGroup ≠ ctx.readerGroup)
    (hr : (s.inHostgroup ctx.writerGroup).find? ctx.isSitting = some r)
    (hback : ctx.holdsBack r.addr = false) : (ctx.elect s).2 = some r.addr := by
  apply ctx.writer_of_find?_staysOnline hne
  obtain ⟨hsits, before, after, hsplit, hearlier⟩ := List.find?_eq_some_iff_append.1 hr
  apply List.find?_eq_some_iff_append.2
  refine ⟨by simp [staysOnline_eq, hsits, hback], before, after, hsplit, ?_⟩
  intro b hb
  have hnot : ctx.isSitting b = false := by simpa using hearlier b hb
  simp [staysOnline_eq, hnot]

theorem onlineAt_recovered_of_returner? (hne : ctx.writerGroup ≠ ctx.readerGroup)
    (h : ctx.returner? s = some a) : (ctx.recovered s).OnlineAt ctx.writerGroup a := by
  obtain ⟨b, hb, -⟩ := ctx.mem_recovering.1 (ctx.mem_of_returning? h)
  refine ⟨activated b, ?_, rfl⟩
  rw [ctx.find?_recovered_writer hne, hb, Option.map_some, if_pos h]

theorem onlineAt_recovered_of_staysOnline (hne : ctx.writerGroup ≠ ctx.readerGroup) {b : Backend}
    (hb : s.find? ctx.writerGroup a = some b) (hs : ctx.staysOnline b = true) :
    (ctx.recovered s).OnlineAt ctx.writerGroup a := by
  refine ⟨b, ?_, ctx.isOnline_of_staysOnline hs⟩
  rw [ctx.find?_recovered_writer hne, hb, Option.map_some,
    ctx.returner?_eq_none_of_staysOnline hb hs]
  simp [hs]

/-- A writer row that is neither pinned nor removed, at a routable node that need not
stand back, leaves some node online before the choice. -/
theorem exists_onlineAt_recovered (hne : ctx.writerGroup ≠ ctx.readerGroup) {b : Backend}
    (hb : s.find? ctx.writerGroup a = some b) (hp : b.isPinned = false)
    (hm : b.isRemoved = false) (hh : ctx.health.health a = .routable)
    (hback : ctx.holdsBack a = false) : ∃ y, (ctx.recovered s).OnlineAt ctx.writerGroup y := by
  have haddr := (BackendSet.find?_eq_some_iff.1 hb).2.2
  by_cases ho : b.isOnline = true
  · have hs : ctx.staysOnline b = true := by simp [staysOnline, hp, ho, haddr, hh, hback]
    exact ⟨a, ctx.onlineAt_recovered_of_staysOnline hne hb hs⟩
  · have hrec : a ∈ ctx.recovering s :=
      ctx.mem_recovering.2 ⟨b, hb, by simp [isRecovering, hp, hm, ho, haddr, hh]⟩
    by_cases he : ((ctx.settled s).onlineIn ctx.writerGroup).isEmpty = true
    · have hfound : ((ctx.recovering s).find? fun addr => !ctx.holdsBack addr).isSome := by
        rw [List.find?_isSome]
        exact ⟨a, hrec, by simp [hback]⟩
      obtain ⟨y, hy⟩ := Option.isSome_iff_exists.1 hfound
      refine ⟨y, ctx.onlineAt_recovered_of_returner? hne ?_⟩
      rw [returner?, returning?, if_pos he, hy]
    · obtain ⟨c, hmem⟩ := List.exists_mem_of_ne_nil _ (mt List.isEmpty_iff.2 he)
      obtain ⟨hc, hoc⟩ := BackendSet.mem_onlineIn.1 hmem
      rw [find?_settled_writer, Option.map_eq_some_iff] at hc
      obtain ⟨d, hd, rfl⟩ := hc
      have hs : ctx.staysOnline d = true := by
        rw [← ctx.settledStatus_eq_online_iff]
        simpa [Backend.isOnline_withStatus] using hoc
      exact ⟨_, ctx.onlineAt_recovered_of_staysOnline hne hd hs⟩

/-! ## Replacements -/

/-- The node is not blacklisted and can be writer: it is pinned nowhere, or its writer row
is neither pinned nor removed. -/
def CanTakeOver (s : BackendSet) (a : Addr) : Prop :=
  ctx.health.health a = .routable ∧ ctx.blacklist.contains a = false ∧
    (s.isPinned a = false ∨
      ∃ b, s.find? ctx.writerGroup a = some b ∧ b.isPinned = false ∧ b.isRemoved = false)

theorem unlisted_of_holdsBack_eq_false (ha : ctx.health.health a = .routable)
    (hfree : ctx.blacklist.contains a = false) (hx : ctx.holdsBack x = false) :
    ctx.blacklist.contains x = false := by
  by_contra hlisted
  have hcand := HealthMap.mem_candidates_of_health ha
  rw [ctx.holdsBack_of_listed (by simpa using hlisted) hcand hfree] at hx
  cases hx

/-- Where a node can take over, the writer is not blacklisted. -/
theorem unlisted_writer_of_canTakeOver (hne : ctx.writerGroup ≠ ctx.readerGroup)
    (h : ctx.CanTakeOver s a) :
    ∃ x, (ctx.elect s).2 = some x ∧ ctx.blacklist.contains x = false := by
  obtain ⟨ha, hfree, hable⟩ := h
  rcases ctx.writer_elect_cases hne s with ⟨k, hk, hback⟩ | ⟨hnil, hchosen⟩
  · exact ⟨k, hk, ctx.unlisted_of_holdsBack_eq_false ha hfree hback⟩
  · rcases hable with hp | ⟨b, hb, hp, hm⟩
    · have heligible := ctx.mem_eligible.2 ⟨HealthMap.mem_candidates_of_health ha, hp⟩
      rw [hchosen]
      exact ctx.choose?_of_unlisted heligible hfree
    · have hback := ctx.holdsBack_of_unlisted hfree
      obtain ⟨y, c, hc, hoc⟩ := ctx.exists_onlineAt_recovered hne hb hp hm ha hback
      rw [isOnline_eq_false_of_onlineIn hnil hc] at hoc
      cases hoc

/-- A writer that is not blacklisted could take over. -/
theorem canTakeOver_of_writer (hne : ctx.writerGroup ≠ ctx.readerGroup)
    (hd : ctx.health.Distinct) (hx : (ctx.elect s).2 = some x)
    (hfree : ctx.blacklist.contains x = false) : ctx.CanTakeOver s x := by
  refine ⟨ctx.routable_of_elect hne hd hx, hfree, ?_⟩
  rcases ctx.elect_cases hne hx with ⟨b, hb, hs, -⟩ | ⟨b, hb, hr, -⟩ | ⟨-, hp, -⟩
  · obtain ⟨hp, ho, -⟩ := ctx.staysOnline_iff.1 hs
    exact .inr ⟨b, hb, hp, Backend.isRemoved_of_isOnline ho⟩
  · obtain ⟨hp, hm, -⟩ := ctx.isRecovering_iff.1 hr
    exact .inr ⟨b, hb, hp, hm⟩
  · exact .inl hp

/-- Where candidates outside the blacklist exist and none can take over, the first
eligible candidate is writer. -/
theorem writer_of_none_canTakeOver (hne : ctx.writerGroup ≠ ctx.readerGroup)
    (hd : ctx.health.Distinct) (hunlisted : ctx.hasUnlisted = true)
    (hnone : ∀ a, ¬ ctx.CanTakeOver s a) : (ctx.elect s).2 = (ctx.eligible s).head? := by
  obtain ⟨a, hcand, hfree⟩ := ctx.hasUnlisted_iff.1 hunlisted
  rcases ctx.writer_elect_cases hne s with ⟨k, hk, hback⟩ | ⟨-, hchosen⟩
  · have hroutable := (HealthMap.mem_candidates_iff hd).1 hcand
    have hkfree := ctx.unlisted_of_holdsBack_eq_false hroutable hfree hback
    exact absurd (ctx.canTakeOver_of_writer hne hd hk hkfree) (hnone k)
  · rw [hchosen]
    apply ctx.choose?_of_all_listed
    intro y hy
    obtain ⟨hycand, hyp⟩ := ctx.mem_eligible.1 hy
    by_contra hyfree
    exact hnone y ⟨(HealthMap.mem_candidates_iff hd).1 hycand, by simpa using hyfree, .inl hyp⟩

/-! ## The sitting writer -/

/-- A sitting writer that need not stand back is kept. In general it is kept, or a node
outside the blacklist takes over from a blacklisted one, exactly when it need not stand
back, or such a node exists, or the sitting writer is itself the first eligible
candidate. Otherwise the first eligible candidate is writer, blacklisted as it is, and
without one there is no writer. -/
theorem sitting_writer_kept_iff (hne : ctx.writerGroup ≠ ctx.readerGroup)
    (hd : ctx.health.Distinct)
    (hr : (current.inHostgroup ctx.writerGroup).find? ctx.isSitting = some r) :
    (ctx.holdsBack r.addr = false → (ctx.plan current).writer = some r.addr) ∧
    (((ctx.plan current).writer = some r.addr ∨
        (ctx.blacklist.contains r.addr = true ∧
          ∃ x, (ctx.plan current).writer = some x ∧ ctx.blacklist.contains x = false)) ↔
      (ctx.holdsBack r.addr = true →
        (∃ a, ctx.CanTakeOver current a) ∨ (ctx.eligible current).head? = some r.addr)) ∧
    (ctx.holdsBack r.addr = true → (∀ a, ¬ ctx.CanTakeOver current a) →
      (ctx.plan current).writer = (ctx.eligible current).head?) := by
  have hkeeps : ctx.holdsBack r.addr = false → (ctx.plan current).writer = some r.addr :=
    fun hback => ctx.writer_of_find?_isSitting hne hr hback
  have hforced : ctx.holdsBack r.addr = true → (∀ a, ¬ ctx.CanTakeOver current a) →
      (ctx.plan current).writer = (ctx.eligible current).head? := by
    intro hback hnone
    rw [holdsBack, Bool.and_eq_true] at hback
    exact ctx.writer_of_none_canTakeOver hne hd hback.2 hnone
  refine ⟨hkeeps, ⟨?_, ?_⟩, hforced⟩
  · intro hkept hback
    by_cases htake : ∃ a, ctx.CanTakeOver current a
    · exact .inl htake
    · right
      have hfirst := hforced hback (not_exists.1 htake)
      rcases hkept with hw | ⟨-, x, hx, hfree⟩
      · rw [← hfirst, hw]
      · exact absurd ⟨x, ctx.canTakeOver_of_writer hne hd hx hfree⟩ htake
  · intro h
    by_cases hback : ctx.holdsBack r.addr = true
    · have hlisted : ctx.blacklist.contains r.addr = true := by
        rw [holdsBack, Bool.and_eq_true] at hback
        exact hback.1
      by_cases htake : ∃ a, ctx.CanTakeOver current a
      · obtain ⟨a, ha⟩ := htake
        exact .inr ⟨hlisted, ctx.unlisted_writer_of_canTakeOver hne ha⟩
      · have hfirst := (h hback).resolve_left htake
        exact .inl (by rw [hforced hback (not_exists.1 htake), hfirst])
    · exact .inl (hkeeps (by simpa using hback))

def pinnedSuccessor : BackendSet :=
  Table.ofList [Backend.new 10 ⟨"db2", 3306⟩ .writer,
    (Backend.new 10 ⟨"db3", 3306⟩ .writer .offlineHard).withOverride (some .offlineHard)]

theorem sitting_writer_kept_iff_of_pinnedSuccessor :
    let listed := threeSynced.withBlacklist ⟨[⟨"db1", 3306⟩, ⟨"db2", 3306⟩]⟩
    listed.writerGroup ≠ listed.readerGroup ∧ listed.health.Distinct ∧
      (pinnedSuccessor.inHostgroup listed.writerGroup).find? listed.isSitting =
        some (Backend.new 10 ⟨"db2", 3306⟩ .writer) ∧
      listed.holdsBack ⟨"db2", 3306⟩ = true ∧
      (listed.plan pinnedSuccessor).writer = some ⟨"db1", 3306⟩ ∧
      ∀ a, ¬ listed.CanTakeOver pinnedSuccessor a := by
  intro listed
  have hne : listed.writerGroup ≠ listed.readerGroup := by decide
  have hd : listed.health.Distinct := by
    unfold HealthMap.Distinct
    decide
  have hr : (pinnedSuccessor.inHostgroup listed.writerGroup).find? listed.isSitting =
      some (Backend.new 10 ⟨"db2", 3306⟩ .writer) := by decide
  have hback : listed.holdsBack ⟨"db2", 3306⟩ = true := by decide
  have hwriter : (listed.plan pinnedSuccessor).writer = some ⟨"db1", 3306⟩ := by decide
  obtain ⟨-, hiff, -⟩ := sitting_writer_kept_iff listed hne hd hr
  have hlost : ¬ ((listed.plan pinnedSuccessor).writer = some ⟨"db2", 3306⟩ ∨
      (listed.blacklist.contains ⟨"db2", 3306⟩ = true ∧
        ∃ x, (listed.plan pinnedSuccessor).writer = some x ∧
          listed.blacklist.contains x = false)) := by
    rw [hwriter]
    rintro (h | ⟨-, x, hx, hfree⟩)
    · exact absurd h (by decide)
    · obtain rfl : (⟨"db1", 3306⟩ : Addr) = x := Option.some.inj hx
      exact absurd hfree (by decide)
  refine ⟨hne, hd, hr, hback, hwriter, fun a ha => hlost (hiff.2 fun _ => .inl ⟨a, ha⟩)⟩

/-- A blacklisted writer in service is replaced by another blacklisted node. -/
theorem sitting_writer_replaced_by_listed :
    let listed := threeSynced.withBlacklist ⟨[⟨"db1", 3306⟩, ⟨"db2", 3306⟩]⟩
    listed.writerGroup ≠ listed.readerGroup ∧ listed.health.Distinct ∧
    ¬ ∀ r, (pinnedSuccessor.inHostgroup listed.writerGroup).find? listed.isSitting = some r →
      (listed.plan pinnedSuccessor).writer = some r.addr ∨
        (listed.blacklist.contains r.addr = true ∧
          ∃ x, (listed.plan pinnedSuccessor).writer = some x ∧
            listed.blacklist.contains x = false) := by
  intro listed
  have hd : listed.health.Distinct := by
    unfold HealthMap.Distinct
    decide
  refine ⟨by decide, hd, ?_⟩
  intro h
  have hwriter : (listed.plan pinnedSuccessor).writer = some ⟨"db1", 3306⟩ := by decide
  rcases h (Backend.new 10 ⟨"db2", 3306⟩ .writer) (by decide) with hkept | ⟨-, x, hx, hfree⟩
  · rw [hwriter] at hkept
    exact absurd hkept (by decide)
  · obtain rfl : (⟨"db1", 3306⟩ : Addr) = x := Option.some.inj (hwriter.symm.trans hx)
    exact absurd hfree (by decide)

end SingleWriter.PlanContext
