import SingleWriter.Proofs.Writes

/-!
# Handover

How the writes of a pass move the writer, write by write. Only a registration brings a
row online, and all else is written before the first registration. The writer row of a
node that is not the writer is never registered. A prefix of the writes therefore either
brings no row online, or has put every other writer at rest already, so that a writer
that comes online is alone.
-/

set_option autoImplicit false

namespace SingleWriter

/-! ## Writes that bring nothing online -/

def Mutation.Lowers : Mutation → Prop
  | .register _ => False
  | .deregister _ => True
  | .setStatus b => b.status ≠ .online

namespace BackendSet

variable {current planned : BackendSet} {g : UInt32}

/-- An online row that only lowering writes lead to was not written. -/
theorem eq_of_rowAfter_lowers {ms : List Mutation} (hms : ∀ m ∈ ms, m.Lowers)
    {row : Option Backend} {b : Backend} (h : rowAfter ms row = some b)
    (hb : b.isOnline = true) : row = some b := by
  induction ms generalizing row with
  | nil => exact h
  | cons m ms ih =>
    have hrow := ih (fun m' hm' => hms m' (by simp [hm'])) h
    have hm := hms m (by simp)
    cases m with
    | register c => exact hm.elim
    | deregister c =>
      obtain ⟨old, -, rfl⟩ := Option.map_eq_some_iff.1 hrow
      rw [Backend.isOnline_withStatus] at hb
      exact absurd hb (by decide)
    | setStatus c =>
      obtain ⟨old, -, rfl⟩ := Option.map_eq_some_iff.1 hrow
      rw [Backend.isOnline_withStatus, decide_eq_true_eq] at hb
      exact absurd hb hm

theorem lowers_of_mem_diff {m : Mutation} (hm : m ∈ diff current planned g)
    (hreg : m.isRegister = false) : m.Lowers := by
  obtain ⟨target, -, hm⟩ := mem_diff_iff.1 hm
  cases m with
  | register b => cases hreg
  | deregister b => trivial
  | setStatus b => exact (setStatus_mem_writesFor hm).1

/-- A prefix of sorted writes has no registration, or it has all writes before them. -/
theorem prefix_inPhases {ms done : List Mutation} (h : done <+: inPhases g ms) :
    (∀ m ∈ done, m.isRegister = false) ∨
      done.filter (!·.isRegister) = (inPhases g ms).filter (!·.isRegister) := by
  have hfirst : ∀ m ∈ hostgroupFirst g (ms.filter (!·.isRegister)), m.isRegister = false := by
    intro m hm
    simp only [hostgroupFirst, List.mem_append, List.mem_filter] at hm
    rcases hm with hm | hm <;> simpa using hm.1.2
  have hsecond : ∀ m ∈ hostgroupFirst g (ms.filter (·.isRegister)), m.isRegister = true := by
    intro m hm
    simp only [hostgroupFirst, List.mem_append, List.mem_filter] at hm
    rcases hm with hm | hm <;> exact hm.1.2
  obtain ⟨rest, hrest⟩ := h
  rw [inPhases] at hrest ⊢
  rcases List.append_eq_append_iff.1 hrest with ⟨more, hmore, -⟩ | ⟨more, rfl, hmore⟩
  · left
    intro m hm
    exact hfirst m (by rw [hmore]; simp [hm])
  · right
    have hnone : ∀ l : List Mutation, (∀ m ∈ l, m.isRegister = true) →
        l.filter (!·.isRegister) = [] := by
      intro l hl
      rw [List.filter_eq_nil_iff]
      intro m hm
      simp [hl m hm]
    rw [List.filter_append, List.filter_append, hnone _ hsecond,
      hnone more fun m hm => hsecond m (by rw [hmore]; simp [hm])]

theorem filter_key_of_lowered {ms done : List Mutation} {k : Backend.Key} (hdone : done <+: ms)
    (hlowered : done.filter (!·.isRegister) = ms.filter (!·.isRegister))
    (hk : ∀ m ∈ ms, m.key = k → m.isRegister = false) :
    done.filter (·.key = k) = ms.filter (·.key = k) := by
  have hkept : ∀ l : List Mutation, (∀ m ∈ l, m ∈ ms) →
      l.filter (·.key = k) = (l.filter (!·.isRegister)).filter (·.key = k) := by
    intro l hl
    rw [List.filter_comm, eq_comm, List.filter_eq_self]
    intro m hm
    obtain ⟨hm, hmk⟩ := List.mem_filter.1 hm
    simp [hk m (hl m hm) (by simpa using hmk)]
  rw [hkept done fun m hm => hdone.subset hm, hlowered, ← hkept ms fun m hm => hm]

end BackendSet

namespace PlanContext

variable (ctx : PlanContext) {current s : BackendSet} {a : Addr}

/-- A row that is put at rest is not registered. -/
theorem isRegister_of_mem_writesFor_rest {old : Backend} {m : Mutation}
    (hm : m ∈ BackendSet.writesFor (ctx.rest old) (some old)) : m.isRegister = false := by
  have hstatus := ctx.restingStatus_ne_online old
  rcases BackendSet.writesFor_cases old (ctx.rest old) with ⟨-, h⟩ | ⟨hreg, hne, h⟩ | ⟨-, -, -, h⟩ |
      ⟨-, -, -, h⟩ | ⟨honline, -, h⟩
  · simp [h] at hm
  · rcases hreg with hs | ha | ho
    · have hrest : ctx.rest old = old.withStatus old.status := by
        rw [hs]
        rfl
      exact absurd hrest.symm hne
    · exact absurd rfl ha
    · exact absurd ho hstatus
  · rw [h, List.mem_singleton] at hm
    rw [hm]
    rfl
  · rw [h, List.mem_singleton] at hm
    rw [hm]
    rfl
  · exact absurd honline hstatus

/-- Once all writes before the registrations are made, no node but the writer has an
online writer row. -/
theorem writer_of_lowered (hne : ctx.writerGroup ≠ ctx.readerGroup)
    (hs : ∀ a, s.find? ctx.writerGroup a = current.find? ctx.writerGroup a) {done : List Mutation}
    (hdone : done <+: BackendSet.diff current (ctx.plan current).backends ctx.writerGroup)
    (hlowered : done.filter (!·.isRegister) =
      (BackendSet.diff current (ctx.plan current).backends ctx.writerGroup).filter (!·.isRegister))
    (ha : (BackendSet.written done s).OnlineAt ctx.writerGroup a) :
    (ctx.plan current).writer = some a := by
  obtain ⟨b, hb, ho⟩ := ha
  by_contra hw
  have hplanned : (ctx.plan current).backends.get? ⟨ctx.writerGroup, a⟩ =
      (current.get? ⟨ctx.writerGroup, a⟩).map ctx.rest := ctx.find?_plan_of_ne hne hw
  have hagree : s.get? ⟨ctx.writerGroup, a⟩ = current.get? ⟨ctx.writerGroup, a⟩ := hs a
  have hkept : ∀ m ∈ BackendSet.diff current (ctx.plan current).backends ctx.writerGroup,
      m.key = ⟨ctx.writerGroup, a⟩ → m.isRegister = false := by
    intro m hm hk
    obtain ⟨target, ht, hm⟩ := BackendSet.mem_diff_iff.1 hm
    rw [hk, hplanned] at ht
    obtain ⟨old, hold, rfl⟩ := Option.map_eq_some_iff.1 ht
    rw [hk, hold] at hm
    exact ctx.isRegister_of_mem_writesFor_rest hm
  have hend := BackendSet.get?_written_diff (g := ctx.writerGroup) (fun _ => hagree)
    fun _ _ hold ht => (ctx.reshaped_plan current).reworked hold ht
  have hrow : (BackendSet.written done s).get? ⟨ctx.writerGroup, a⟩ = some b := hb
  rw [BackendSet.get?_written, ← BackendSet.filter_key_of_lowered hdone hlowered hkept,
    ← BackendSet.get?_written, hrow, hplanned, hagree] at hend
  cases hold : current.get? ⟨ctx.writerGroup, a⟩ with
  | none =>
    rw [hold] at hend
    cases hend
  | some old =>
    rw [hold, Option.map_some] at hend
    simp only [reduceCtorEq, false_and, if_false] at hend
    cases hend
    rw [rest, Backend.isOnline_withStatus, decide_eq_true_eq] at ho
    exact ctx.restingStatus_ne_online old ho

/-- A prefix of the writes brings no writer row online, or leaves only the new writer's. -/
theorem onlineAt_written_cases (hne : ctx.writerGroup ≠ ctx.readerGroup)
    (hs : ∀ a, s.find? ctx.writerGroup a = current.find? ctx.writerGroup a) {done : List Mutation}
    (hdone : done <+: BackendSet.diff current (ctx.plan current).backends ctx.writerGroup) :
    (∀ a, (BackendSet.written done s).OnlineAt ctx.writerGroup a →
      current.OnlineAt ctx.writerGroup a) ∨
    (∀ a, (BackendSet.written done s).OnlineAt ctx.writerGroup a →
      (ctx.plan current).writer = some a) := by
  rcases BackendSet.prefix_inPhases hdone with hnone | hlowered
  · left
    rintro a ⟨b, hb, ho⟩
    refine ⟨b, ?_, ho⟩
    rw [← hs]
    rw [BackendSet.find?, BackendSet.get?_written] at hb
    refine BackendSet.eq_of_rowAfter_lowers ?_ hb ho
    intro m hm
    have hmem := (List.mem_filter.1 hm).1
    exact BackendSet.lowers_of_mem_diff (hdone.subset hmem) (hnone m hmem)
  · right
    intro a ha
    exact ctx.writer_of_lowered hne hs hdone hlowered ha

/-- A prefix of the writes never makes a second online writer. -/
theorem length_onlineIn_written (hne : ctx.writerGroup ≠ ctx.readerGroup)
    (hs : ∀ a, s.find? ctx.writerGroup a = current.find? ctx.writerGroup a) {done : List Mutation}
    (hdone : done <+: BackendSet.diff current (ctx.plan current).backends ctx.writerGroup) :
    ((BackendSet.written done s).onlineIn ctx.writerGroup).length ≤
      max 1 (s.onlineIn ctx.writerGroup).length := by
  rcases ctx.onlineAt_written_cases hne hs hdone with h | h
  · apply Nat.le_trans _ (Nat.le_max_right _ _)
    apply BackendSet.length_filter_inHostgroup_le
    intro a b hb ho
    obtain ⟨c, hc, hco⟩ := h a ⟨b, hb, ho⟩
    exact ⟨c, by rw [hs, hc], hco⟩
  · apply Nat.le_trans _ (Nat.le_max_left _ _)
    rw [BackendSet.length_onlineIn_le_one_iff]
    intro a b ha hb
    exact Option.some.inj ((h a ha).symm.trans (h b hb))

end PlanContext

end SingleWriter
