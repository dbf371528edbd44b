import SingleWriter.Proofs.Plans
import Mathlib.Data.List.Find

/-!
# Blacklists

The blacklist is asked in two places: whether a node has to stand back, and which of the
eligible candidates is chosen. Both questions are only put about candidates. A plan is
therefore the same for two lists that contain the same routable addresses, and a list
that contains all of them is as good as none.

A blacklisted node is writer only where every other routable address is blacklisted too
or pinned by the operator.
-/

set_option autoImplicit false

namespace SingleWriter.PlanContext

variable (ctx : PlanContext) {s current : BackendSet} {list : Blacklist} {a x : Addr}

/-! ## Unlisted candidates -/

theorem hasUnlisted_iff :
    ctx.hasUnlisted = true ↔ ∃ a ∈ ctx.health.candidates, ctx.blacklist.contains a = false := by
  simp [hasUnlisted]

theorem holdsBack_of_listed (ha : ctx.blacklist.contains a = true)
    (hx : x ∈ ctx.health.candidates) (hfree : ctx.blacklist.contains x = false) :
    ctx.holdsBack a = true := by
  rw [holdsBack, ha, Bool.true_and]
  exact ctx.hasUnlisted_iff.2 ⟨x, hx, hfree⟩

theorem holdsBack_of_unlisted (ha : ctx.blacklist.contains a = false) :
    ctx.holdsBack a = false := by
  rw [holdsBack, ha, Bool.false_and]

/-- An eligible candidate that is not blacklisted is preferred. -/
theorem choose?_of_unlisted (ha : a ∈ ctx.eligible s) (hfree : ctx.blacklist.contains a = false) :
    ∃ x, ctx.choose? s = some x ∧ ctx.blacklist.contains x = false := by
  have hfound : ((ctx.eligible s).find? fun addr => !ctx.blacklist.contains addr).isSome := by
    rw [List.find?_isSome]
    exact ⟨a, ha, by simp [hfree]⟩
  obtain ⟨x, hx⟩ := Option.isSome_iff_exists.1 hfound
  exact ⟨x, by rw [choose?, hx, Option.some_or], by simpa using List.find?_some hx⟩

theorem choose?_of_all_listed (h : ∀ a ∈ ctx.eligible s, ctx.blacklist.contains a = true) :
    ctx.choose? s = (ctx.eligible s).head? := by
  have hnone : ((ctx.eligible s).find? fun addr => !ctx.blacklist.contains addr) = none := by
    rw [List.find?_eq_none]
    intro a ha
    simp [h a ha]
  rw [choose?, hnone, Option.none_or]

theorem choose?_of_none_listed (h : ∀ a ∈ ctx.eligible s, ctx.blacklist.contains a = false) :
    ctx.choose? s = (ctx.eligible s).head? := by
  rw [choose?]
  cases he : ctx.eligible s with
  | nil => rfl
  | cons x rest =>
    have hx := h x (by simp [he])
    simp [hx]

/-! ## Another blacklist -/

def withBlacklist (list : Blacklist) : PlanContext := { ctx with blacklist := list }

/-- A list with the same verdicts on the routable nodes and the same choice gives the same plan. -/
theorem plan_withBlacklist (hback : ∀ a, ctx.health.health a = .routable →
      (ctx.withBlacklist list).holdsBack a = ctx.holdsBack a)
    (hchoice : ∀ s, (ctx.withBlacklist list).choose? s = ctx.choose? s)
    (current : BackendSet) : (ctx.withBlacklist list).plan current = ctx.plan current := by
  have hagrees : ctx.Agrees (ctx.withBlacklist list) := ⟨rfl, rfl, fun _ => rfl, hback⟩
  have helect : (ctx.withBlacklist list).elect current = ctx.elect current := by
    rw [elect_eq, elect_eq, hagrees.recovered_eq]
    unfold electFrom
    rw [hchoice]
    rfl
  unfold plan
  rw [helect]
  rfl

/-- The plan depends on the blacklist only through the routable addresses in it. -/
theorem plan_congr_blacklist (hd : ctx.health.Distinct)
    (h : ∀ a, ctx.health.health a = .routable → list.contains a = ctx.blacklist.contains a)
    (current : BackendSet) : (ctx.withBlacklist list).plan current = ctx.plan current := by
  have hcand : ∀ a ∈ ctx.health.candidates, list.contains a = ctx.blacklist.contains a :=
    fun a ha => h a ((HealthMap.mem_candidates_iff hd).1 ha)
  have hunlisted : (ctx.withBlacklist list).hasUnlisted = ctx.hasUnlisted := by
    rw [Bool.eq_iff_iff, hasUnlisted_iff, hasUnlisted_iff]
    exact exists_congr fun a => and_congr_right fun ha => by
      rw [← hcand a ha]
      rfl
  apply ctx.plan_withBlacklist
  · intro a ha
    rw [holdsBack, holdsBack, hunlisted, ← h a ha]
    rfl
  · intro s
    have hfind : ((ctx.eligible s).find? fun addr => !list.contains addr) =
        (ctx.eligible s).find? fun addr => !ctx.blacklist.contains addr := by
      apply List.find?_congr
      intro a ha
      rw [hcand a (ctx.mem_eligible.1 ha).1]
    rw [choose?, choose?, ← hfind]
    rfl

/-- A list of all routable addresses is as good as an empty one. -/
theorem plan_of_all_listed (h : ∀ a ∈ ctx.health.candidates, ctx.blacklist.contains a = true)
    (current : BackendSet) : (ctx.withBlacklist {}).plan current = ctx.plan current := by
  have hfree : ∀ a, (ctx.withBlacklist {}).blacklist.contains a = false := by
    intro a
    simp [withBlacklist, Blacklist.contains]
  apply ctx.plan_withBlacklist
  · intro a _
    have hnone : ctx.hasUnlisted = false := by
      rw [Bool.eq_false_iff, ne_eq, hasUnlisted_iff]
      rintro ⟨x, hx, hx'⟩
      rw [h x hx] at hx'
      cases hx'
    rw [holdsBack_of_unlisted _ (hfree a), holdsBack, hnone, Bool.and_false]
  · intro s
    rw [choose?_of_none_listed _ fun a _ => hfree a,
      ctx.choose?_of_all_listed fun a ha => h a (ctx.mem_eligible.1 ha).1]
    rfl

/-! ## Forced writers -/

/-- A blacklisted writer is forced: whoever else is routable and not blacklisted is pinned. -/
theorem isPinned_of_listed_writer (hne : ctx.writerGroup ≠ ctx.readerGroup)
    (hx : (ctx.plan current).writer = some x) (hlisted : ctx.blacklist.contains x = true)
    (ha : a ∈ ctx.health.candidates) (hfree : ctx.blacklist.contains a = false) :
    current.isPinned a = true := by
  have hback := ctx.holdsBack_of_listed hlisted ha hfree
  have hchosen : ctx.choose? current = some x := by
    rw [ctx.choose?_of_elect hne, ← hx]
    · rfl
    · intro y hy
      obtain rfl : x = y := Option.some.inj (hx.symm.trans hy)
      exact hback
  by_contra hp
  have heligible : a ∈ ctx.eligible current := ctx.mem_eligible.2 ⟨ha, by simpa using hp⟩
  obtain ⟨y, hy, hyfree⟩ := ctx.choose?_of_unlisted heligible hfree
  rw [hchosen, Option.some.injEq] at hy
  rw [← hy, hlisted] at hyfree
  cases hyfree

/-- The blacklist is respected unless that would leave no writer. A blacklisted node is
writer only where each routable address outside the list has a row that the operator
pinned. The plan depends on the routable addresses in the list alone, so that entries
which match no routable node change nothing, and a list of all routable addresses is as
good as an empty one. -/
theorem blacklist_respected_unless_forced (hne : ctx.writerGroup ≠ ctx.readerGroup)
    (hd : ctx.health.Distinct) (current : BackendSet) :
    (∀ w, (ctx.plan current).writer = some w → ctx.blacklist.contains w = true →
      ∀ a, ctx.health.health a = .routable → ctx.blacklist.contains a = false →
        ∃ b ∈ current.rows, b.addr = a ∧ b.annotation.override = some .offlineHard) ∧
    (∀ list : Blacklist,
      (∀ a, ctx.health.health a = .routable → list.contains a = ctx.blacklist.contains a) →
        (ctx.withBlacklist list).plan current = ctx.plan current) ∧
    (∀ others : List Addr, (∀ a ∈ others, ctx.health.health a ≠ .routable) →
      (ctx.withBlacklist ⟨ctx.blacklist.entries ++ others⟩).plan current = ctx.plan current) ∧
    ((∀ a, ctx.health.health a = .routable → ctx.blacklist.contains a = true) →
      ctx.plan current = (ctx.withBlacklist {}).plan current) := by
  refine ⟨?_, fun list h => ctx.plan_congr_blacklist hd h current, ?_, ?_⟩
  · intro w hw hlisted a ha hfree
    have hcand := HealthMap.mem_candidates_of_health ha
    have hp := ctx.isPinned_of_listed_writer hne hw hlisted hcand hfree
    obtain ⟨g, b, hb, hpin⟩ := BackendSet.isPinned_eq_true_iff.1 hp
    obtain ⟨hmem, -, haddr⟩ := BackendSet.find?_eq_some_iff.1 hb
    exact ⟨b, hmem, haddr, by simpa [Backend.isPinned] using hpin⟩
  · intro others hothers
    apply ctx.plan_congr_blacklist hd
    intro a ha
    have hout : a ∉ others := fun hmem => hothers a hmem ha
    simp [Blacklist.contains, hout]
  · intro h
    rw [ctx.plan_of_all_listed]
    exact fun a ha => h a ((HealthMap.mem_candidates_iff hd).1 ha)

def pinnedAlternative : BackendSet :=
  Table.ofList [Backend.new 10 ⟨"db1", 3306⟩ .writer,
    (Backend.new 11 ⟨"db3", 3306⟩ .reader).withOverride (some .offlineHard)]

theorem blacklist_respected_unless_forced_of_pinnedAlternative :
    let forced := threeSynced.withBlacklist ⟨[⟨"db1", 3306⟩, ⟨"db2", 3306⟩]⟩
    forced.writerGroup ≠ forced.readerGroup ∧ forced.health.Distinct ∧
      (forced.plan pinnedAlternative).writer = some ⟨"db1", 3306⟩ ∧
      (∃ b ∈ pinnedAlternative.rows, b.addr = ⟨"db3", 3306⟩ ∧
        b.annotation.override = some .offlineHard) ∧
      (forced.withBlacklist ⟨[⟨"db2", 3306⟩, ⟨"db9", 3306⟩, ⟨"db1", 3306⟩]⟩).plan
        pinnedAlternative = forced.plan pinnedAlternative := by
  intro forced
  have hne : forced.writerGroup ≠ forced.readerGroup := by decide
  have hd : forced.health.Distinct := by
    unfold HealthMap.Distinct
    decide
  have hwriter : (forced.plan pinnedAlternative).writer = some ⟨"db1", 3306⟩ := by decide
  obtain ⟨hforced, hsame, -, -⟩ :=
    blacklist_respected_unless_forced forced hne hd pinnedAlternative
  refine ⟨hne, hd, hwriter, hforced _ hwriter (by decide) _ (by decide) (by decide), ?_⟩
  apply hsame
  intro a ha
  have hcases : a = ⟨"db1", 3306⟩ ∨ a = ⟨"db2", 3306⟩ ∨ a = ⟨"db3", 3306⟩ := by
    have hmem := (HealthMap.mem_candidates_iff hd).2 ha
    have hcand : forced.health.candidates = [⟨"db1", 3306⟩, ⟨"db2", 3306⟩, ⟨"db3", 3306⟩] := by
      decide
    rw [hcand] at hmem
    simpa using hmem
  rcases hcases with rfl | rfl | rfl <;> decide

end SingleWriter.PlanContext
