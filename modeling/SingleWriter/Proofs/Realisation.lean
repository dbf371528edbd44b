import SingleWriter.Proofs.Ledger

/-!
# Realised plans

An open store is up and takes any number of writes. A difference sets the status only of
rows that are there, so an open store accepts it as a whole. What it then holds is the
plan, but for the new rows that the plan would remove at once.
-/

set_option autoImplicit false

namespace SingleWriter

open SingleWriter.Action

namespace Store

def IsOpen (s : Store) : Prop := s.isDown = false ∧ s.writesLeft = none

variable {s : Store} {r : Reconciler Store}

/-- An open store accepts writes that apply to its rows, one and all. -/
theorem apply_of_open (hr : r.admin = admin) (h : s.IsOpen) {ms : List Mutation}
    (hms : ∀ m ∈ ms, m.Applies s.backends) :
    ∃ t, r.apply ms s = .ok () t ∧ t.backends = BackendSet.written ms s.backends := by
  rcases apply_of_up hr h.1 hms with hall | ⟨k, -, hleft, -⟩
  · refine ⟨_, hall, ?_⟩
    rw [perform, backends_assign]
  · rw [h.2] at hleft
    cases hleft

end Store

namespace PlanContext

variable (ctx : PlanContext) {current : BackendSet}

/-- A store that is open and has the rows that were loaded takes the writes of a pass
without a failure. It then holds the planned row of every key, except that a new row
planned as removed is not there, and all else as before. A row that is planned as it
stands is not written, so that nothing is written exactly when the plan differs by new
removed rows alone. -/
theorem apply_realises_plan
    (hcurrent : ∀ b ∈ current.rows, b.hostgroup ∈ [ctx.writerGroup, ctx.readerGroup])
    (nodes : NodeAccess Store) (monitor : Option Credentials) {store : Store}
    (hup : store.isDown = false) (hleft : store.writesLeft = none)
    (hrows : ∀ k : Backend.Key, k.hostgroup ∈ [ctx.writerGroup, ctx.readerGroup] →
      store.backends.get? k = current.get? k) :
    ∃ store', (Reconciler.mk nodes Store.admin monitor).apply
        (BackendSet.diff current (ctx.plan current).backends ctx.writerGroup) store = .ok () store' ∧
      (∀ b ∈ (ctx.plan current).backends.rows,
        current.get? b.key ≠ none ∨ b.isRemoved = false →
          store'.backends.get? b.key = some b) ∧
      (∀ b ∈ (ctx.plan current).backends.rows,
        current.get? b.key = none → b.isRemoved = true → store'.backends.get? b.key = none) ∧
      (∀ k, (ctx.plan current).backends.get? k = none →
        store'.backends.get? k = store.backends.get? k) ∧
      (∀ b ∈ current.rows, b ∈ (ctx.plan current).backends.rows →
        ∀ m ∈ BackendSet.diff current (ctx.plan current).backends ctx.writerGroup,
          m.key ≠ b.key) ∧
      (BackendSet.diff current (ctx.plan current).backends ctx.writerGroup = [] ↔
        (∀ b ∈ current.rows, b ∈ (ctx.plan current).backends.rows) ∧
        ∀ b ∈ (ctx.plan current).backends.rows,
          b ∈ current.rows ∨ (current.get? b.key = none ∧ b.isRemoved = true)) := by
  have hreshaped := ctx.reshaped_plan current
  have hagree : ∀ k, (ctx.plan current).backends.get? k ≠ none →
      store.backends.get? k = current.get? k :=
    fun k hk => hrows k (hreshaped.hostgroup_mem hcurrent hk)
  obtain ⟨store', happly, hwritten⟩ := Store.apply_of_open
    (r := Reconciler.mk nodes Store.admin monitor) rfl ⟨hup, hleft⟩
    fun m hm => BackendSet.applies_diff hm (hagree m.key)
  have hafter := fun k => BackendSet.get?_written_diff (g := ctx.writerGroup) (hagree k)
    fun _ _ ho ht => hreshaped.reworked ho ht
  refine ⟨store', happly, ?_, ?_, ?_, ?_, ?_⟩
  · intro b hb hrow
    have h := hafter b.key
    rw [Table.get?_key hb] at h
    rw [hwritten, h]
    apply if_neg
    rintro ⟨hn, hr⟩
    rcases hrow with hc | hl
    · exact hc hn
    · rw [hr] at hl
      cases hl
  · intro b hb hn hr
    have h := hafter b.key
    rw [Table.get?_key hb] at h
    rw [hwritten, h]
    exact if_pos ⟨hn, hr⟩
  · intro k hk
    have h := hafter k
    rw [hk] at h
    rw [hwritten, h]
  · intro b hb hp m hm hkey
    obtain ⟨target, ht, hm⟩ := BackendSet.mem_diff_iff.1 hm
    rw [hkey, Table.get?_key hp] at ht
    cases ht
    rw [hkey, Table.get?_key hb, BackendSet.writesFor_eq_nil_iff.2 (.inl rfl)] at hm
    cases hm
  · rw [BackendSet.diff_eq_nil_iff]
    refine ⟨fun h => ⟨?_, h⟩, fun h => h.2⟩
    intro b hb
    have hcur := Table.get?_key hb
    obtain ⟨c, hc⟩ := Option.ne_none_iff_exists'.1 (hreshaped.get?_ne_none (by rw [hcur]; simp))
    have hkey := Table.key_of_get? hc
    rcases h c (Table.mem_of_get? hc) with hmem | ⟨hn, -⟩
    · rw [Table.eq_of_mem_of_key hb hmem hkey.symm]
      exact Table.mem_of_get? hc
    · rw [hkey, hcur] at hn
      cases hn

def failingOver : BackendSet :=
  Table.ofList [Backend.new 10 ⟨"db1", 3306⟩ .writer,
    (Backend.new 10 ⟨"db2", 3306⟩ .reader .shunned).withOverride (some .online),
    Backend.new 11 ⟨"db9", 3306⟩ .reader]

def failingOverStore : Store where
  backends := Table.insert failingOver (Backend.new 20 ⟨"app", 3306⟩ .none)

def unusedNodes : NodeAccess Store where
  fetch _ := throw (.timeout 0)
  peers _ := throw (.timeout 0)
  setDesync _ _ := throw (.timeout 0)

theorem apply_realises_plan_of_failingOver :
    (∀ b ∈ failingOver.rows, b.hostgroup ∈ [threeSynced.writerGroup, threeSynced.readerGroup]) ∧
    failingOverStore.isDown = false ∧ failingOverStore.writesLeft = none ∧
    (∀ k : Backend.Key, k.hostgroup ∈ [threeSynced.writerGroup, threeSynced.readerGroup] →
      failingOverStore.backends.get? k = failingOver.get? k) ∧
    ∃ store', (Reconciler.mk unusedNodes Store.admin none).apply
        (BackendSet.diff failingOver (threeSynced.plan failingOver).backends 10)
        failingOverStore = .ok () store' ∧
      store'.backends.get? ⟨10, ⟨"db2", 3306⟩⟩ =
        some ((Backend.new 10 ⟨"db2", 3306⟩ .writer).withOverride (some .online)) ∧
      store'.backends.get? ⟨11, ⟨"db2", 3306⟩⟩ = none ∧
      store'.backends.get? ⟨20, ⟨"app", 3306⟩⟩ = some (Backend.new 20 ⟨"app", 3306⟩ .none) := by
  have hcurrent : ∀ b ∈ failingOver.rows,
      b.hostgroup ∈ [threeSynced.writerGroup, threeSynced.readerGroup] := by decide
  have hrows : ∀ k : Backend.Key, k.hostgroup ∈ [threeSynced.writerGroup, threeSynced.readerGroup] →
      failingOverStore.backends.get? k = failingOver.get? k := by
    intro k hk
    rw [failingOverStore, Table.get?_insert, if_neg]
    rintro rfl
    revert hk
    decide
  obtain ⟨store', happly, hheld, hnew, hother, -⟩ :=
    apply_realises_plan threeSynced hcurrent unusedNodes none rfl rfl hrows
  refine ⟨hcurrent, rfl, rfl, hrows, store', happly, ?_, ?_, ?_⟩
  · exact hheld ((Backend.new 10 ⟨"db2", 3306⟩ .writer).withOverride (some .online)) (by decide)
      (.inr rfl)
  · exact hnew (Backend.new 11 ⟨"db2", 3306⟩ .reader .offlineHard) (by decide) (by decide) rfl
  · rw [hother _ (by decide)]
    decide

end PlanContext

end SingleWriter
