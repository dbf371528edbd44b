import SingleWriter.Proofs.Plans
import SingleWriter.Mutation

/-!
# Writes

What a list of writes makes of a set of backends, row by row: the row of a key sees only
the writes with that key. The writes of a difference with one key are those for the
planned row that has it, in the order in which they were made, since sorting by phase
and hostgroup never swaps a removal behind a registration of the same key. Where rows
are at most reworked, they end in the planned row.
-/

set_option autoImplicit false

namespace SingleWriter

namespace Mutation

def key (m : Mutation) : Backend.Key := m.backend.key

def effect : Mutation → BackendSet → BackendSet
  | .register b, s => s.insert b
  | .deregister b, s => s.setStatus b.key .offlineHard
  | .setStatus b, s => s.setStatus b.key b.status

def onRow : Mutation → Option Backend → Option Backend
  | .register b, _ => some b
  | .deregister _, row => row.map (Backend.withStatus .offlineHard)
  | .setStatus b, row => row.map (Backend.withStatus b.status)

theorem get?_effect (m : Mutation) (s : BackendSet) (k : Backend.Key) :
    (m.effect s).get? k = if m.key = k then m.onRow (s.get? k) else s.get? k := by
  cases m with
  | register b => exact Table.get?_insert s b k
  | deregister b => exact BackendSet.get?_setStatus s b.key .offlineHard k
  | setStatus b => exact BackendSet.get?_setStatus s b.key b.status k

end Mutation

namespace BackendSet

def written : List Mutation → BackendSet → BackendSet
  | [], s => s
  | m :: ms, s => written ms (m.effect s)

def rowAfter : List Mutation → Option Backend → Option Backend
  | [], row => row
  | m :: ms, row => rowAfter ms (m.onRow row)

theorem get?_written (ms : List Mutation) (s : BackendSet) (k : Backend.Key) :
    (written ms s).get? k = rowAfter (ms.filter (·.key = k)) (s.get? k) := by
  induction ms generalizing s with
  | nil => rfl
  | cons m ms ih =>
    rw [written, ih, Mutation.get?_effect]
    by_cases h : m.key = k
    · simp [h, rowAfter]
    · simp [h]

/-! ## Writes of one row -/

theorem writesFor_none (target : Backend) :
    writesFor target none = if target.isRemoved then [] else [.register target] := rfl

/-- Every way in which a row is taken to its target. A row is only deregistered or set
where nothing but its status changes, and only an online target takes two writes. -/
theorem writesFor_cases (old target : Backend) :
    (old = target ∧ writesFor target (some old) = []) ∨
    ((old.status = target.status ∨ old.annotation ≠ target.annotation ∨
        target.status = .online) ∧ old ≠ target ∧
      writesFor target (some old) = [.register target]) ∨
    (old.annotation = target.annotation ∧ target.status = .offlineHard ∧ old ≠ target ∧
      writesFor target (some old) = [.deregister target]) ∨
    (old.annotation = target.annotation ∧ target.status ≠ .online ∧ old ≠ target ∧
      writesFor target (some old) = [.setStatus target]) ∨
    (target.status = .online ∧ old ≠ target ∧
      writesFor target (some old) = [.deregister old, .register target]) := by
  by_cases heq : old = target
  · exact .inl ⟨heq, by simp [writesFor, heq]⟩
  · by_cases hreg : old.status = target.status ∨
        (old.annotation ≠ target.annotation ∧ target.status ≠ .online)
    · refine .inr (.inl ⟨?_, heq, by simp only [writesFor, if_neg heq, if_pos hreg]⟩)
      rcases hreg with h | h
      · exact .inl h
      · exact .inr (.inl h.1)
    · obtain ⟨-, hann⟩ := not_or.1 hreg
      cases ht : target.status with
      | online =>
        by_cases hr : old.isRemoved = true
        · refine .inr (.inl ⟨.inr (.inr rfl), heq, ?_⟩)
          simp only [writesFor, if_neg heq, if_neg hreg]
          simp only [ht, if_pos hr]
        · refine .inr (.inr (.inr (.inr ⟨rfl, heq, ?_⟩)))
          simp only [writesFor, if_neg heq, if_neg hreg]
          simp only [ht, if_neg hr]
      | shunned =>
        have hsame : old.annotation = target.annotation := by simpa [ht] using hann
        refine .inr (.inr (.inr (.inl ⟨hsame, by simp, heq, ?_⟩)))
        simp only [writesFor, if_neg heq, if_neg hreg]
        simp only [ht]
      | offlineSoft =>
        have hsame : old.annotation = target.annotation := by simpa [ht] using hann
        refine .inr (.inr (.inr (.inl ⟨hsame, by simp, heq, ?_⟩)))
        simp only [writesFor, if_neg heq, if_neg hreg]
        simp only [ht]
      | offlineHard =>
        have hsame : old.annotation = target.annotation := by simpa [ht] using hann
        refine .inr (.inr (.inl ⟨hsame, rfl, heq, ?_⟩))
        simp only [writesFor, if_neg heq, if_neg hreg]
        simp only [ht]

theorem key_of_mem_writesFor {target : Backend} {row : Option Backend} {m : Mutation}
    (hrow : ∀ old, row = some old → old.key = target.key) (hm : m ∈ writesFor target row) :
    m.key = target.key := by
  cases row with
  | none =>
    rw [writesFor_none] at hm
    split at hm
    · simp at hm
    · rw [List.mem_singleton.1 hm]
      rfl
  | some old =>
    rcases writesFor_cases old target with ⟨-, h⟩ | ⟨-, -, h⟩ | ⟨-, -, -, h⟩ | ⟨-, -, -, h⟩ |
        ⟨-, -, h⟩
    · simp [h] at hm
    · rw [h, List.mem_singleton] at hm
      rw [hm]
      rfl
    · rw [h, List.mem_singleton] at hm
      rw [hm]
      rfl
    · rw [h, List.mem_singleton] at hm
      rw [hm]
      rfl
    · rw [h, List.mem_pair] at hm
      rcases hm with rfl | rfl
      · exact hrow old rfl
      · rfl

/-- A status is only set on a row that is there, and never to online. -/
theorem setStatus_mem_writesFor {b target : Backend} {row : Option Backend}
    (h : Mutation.setStatus b ∈ writesFor target row) :
    b.status ≠ .online ∧ ∃ old, row = some old := by
  cases row with
  | none =>
    rw [writesFor_none] at h
    split at h <;> simp at h
  | some old =>
    refine ⟨?_, old, rfl⟩
    rcases writesFor_cases old target with ⟨-, hw⟩ | ⟨-, -, hw⟩ | ⟨-, -, -, hw⟩ | ⟨-, hs, -, hw⟩ |
        ⟨-, -, hw⟩ <;> rw [hw] at h <;> simp at h
    rw [h]
    exact hs

/-- The writes of one row already stand in phase order. -/
theorem phases_writesFor (target : Backend) (row : Option Backend) :
    (writesFor target row).filter (!·.isRegister) ++ (writesFor target row).filter (·.isRegister) =
      writesFor target row := by
  cases row with
  | none =>
    rw [writesFor_none]
    split <;> rfl
  | some old =>
    rcases writesFor_cases old target with ⟨-, h⟩ | ⟨-, -, h⟩ | ⟨-, -, -, h⟩ | ⟨-, -, -, h⟩ |
        ⟨-, -, h⟩ <;> rw [h] <;> rfl

/-- The writes of a row end in its target, unless there is nothing to remove. -/
theorem rowAfter_writesFor {target : Backend} {row : Option Backend}
    (h : ∀ old, row = some old → old.Reworked target) :
    rowAfter (writesFor target row) row =
      if row = none ∧ target.isRemoved = true then none else some target := by
  cases row with
  | none =>
    rw [writesFor_none]
    by_cases hr : target.isRemoved = true <;> simp [hr, rowAfter, Mutation.onRow]
  | some old =>
    have hold := h old rfl
    rw [if_neg (by simp)]
    rcases writesFor_cases old target with ⟨he, h⟩ | ⟨-, -, h⟩ | ⟨ha, ht, -, h⟩ | ⟨ha, -, -, h⟩ |
        ⟨-, -, h⟩
    · rw [h, he]
      rfl
    · rw [h]
      rfl
    · rw [h, hold.eq_withStatus ha, ht]
      rfl
    · rw [h, hold.eq_withStatus ha]
      rfl
    · rw [h]
      rfl

theorem writesFor_eq_nil_iff {target : Backend} {row : Option Backend} :
    writesFor target row = [] ↔
      row = some target ∨ (row = none ∧ target.isRemoved = true) := by
  cases row with
  | none =>
    rw [writesFor_none]
    by_cases hr : target.isRemoved = true <;> simp [hr]
  | some old =>
    rcases writesFor_cases old target with ⟨he, h⟩ | ⟨-, he, h⟩ | ⟨-, -, he, h⟩ |
        ⟨-, -, he, h⟩ | ⟨-, he, h⟩
    · simp [he, writesFor]
    · simp [h, he]
    · simp [h, he]
    · simp [h, he]
    · simp [h, he]

/-! ## Writes of a difference -/

theorem filter_flatMap_key (f : Backend → List Mutation) (k : Backend.Key) {rows : List Backend}
    (hnodup : (rows.map Backend.key).Nodup) (hf : ∀ b ∈ rows, ∀ m ∈ f b, m.key = b.key) :
    (rows.flatMap f).filter (·.key = k) =
      ((rows.find? (·.key = k)).map f).getD [] := by
  induction rows with
  | nil => rfl
  | cons b rest ih =>
    rw [List.map_cons, List.nodup_cons] at hnodup
    have ih := ih hnodup.2 fun c hc => hf c (by simp [hc])
    rw [List.flatMap_cons, List.filter_append, ih]
    by_cases hb : b.key = k
    · subst hb
      have hrest : rest.find? (·.key = b.key) = none := by
        rw [List.find?_eq_none]
        intro c hc he
        exact hnodup.1 (List.mem_map.2 ⟨c, hc, by simpa using he⟩)
      have hall : (f b).filter (·.key = b.key) = f b := by
        rw [List.filter_eq_self]
        intro m hm
        simpa using hf b (by simp) m hm
      simp [hrest, hall]
    · have hnone : (f b).filter (·.key = k) = [] := by
        rw [List.filter_eq_nil_iff]
        intro m hm
        simpa [hf b (by simp) m hm] using hb
      simp [hnone, hb]

theorem filter_hostgroupFirst (g : UInt32) (ms : List Mutation) (k : Backend.Key) :
    (hostgroupFirst g ms).filter (·.key = k) = ms.filter (·.key = k) := by
  have hgroup : ∀ m : Mutation, m.key = k → m.backend.hostgroup = k.hostgroup := by
    rintro m rfl
    rfl
  simp only [hostgroupFirst, List.filter_append, List.filter_filter]
  by_cases hk : k.hostgroup = g
  · have hnone : ms.filter (fun m => decide (m.key = k) && decide (m.backend.hostgroup ≠ g)) = [] := by
      rw [List.filter_eq_nil_iff]
      intro m _ hm
      simp only [Bool.and_eq_true, decide_eq_true_eq] at hm
      exact hm.2 ((hgroup m hm.1).trans hk)
    rw [hnone, List.append_nil]
    apply List.filter_congr
    intro m _
    by_cases hm : m.key = k
    · simp [hm, hgroup m hm, hk]
    · simp [hm]
  · have hnone : ms.filter (fun m => decide (m.key = k) && decide (m.backend.hostgroup = g)) = [] := by
      rw [List.filter_eq_nil_iff]
      intro m _ hm
      simp only [Bool.and_eq_true, decide_eq_true_eq] at hm
      exact hk ((hgroup m hm.1).symm.trans hm.2)
    rw [hnone, List.nil_append]
    apply List.filter_congr
    intro m _
    by_cases hm : m.key = k
    · simp [hm, hgroup m hm, hk]
    · simp [hm]

theorem filter_inPhases (g : UInt32) (ms : List Mutation) (k : Backend.Key) :
    (inPhases g ms).filter (·.key = k) =
      (ms.filter (·.key = k)).filter (!·.isRegister) ++
        (ms.filter (·.key = k)).filter (·.isRegister) := by
  simp only [inPhases, List.filter_append, filter_hostgroupFirst]
  congr 1 <;> exact List.filter_comm _ _ ms

variable {current planned : BackendSet}

/-- The writes with one key are those of the planned row that has it. -/
theorem filter_diff (current planned : BackendSet) (g : UInt32) (k : Backend.Key) :
    (diff current planned g).filter (·.key = k) =
      ((planned.get? k).map fun target => writesFor target (current.get? k)).getD [] := by
  have hkey : ∀ b ∈ planned.rows, ∀ m ∈ writesFor b (current.get? b.key), m.key = b.key := by
    intro b _ m hm
    exact key_of_mem_writesFor (fun old h => Table.key_of_get? h) hm
  have hrow := filter_flatMap_key (fun b => writesFor b (current.get? b.key)) k planned.nodup hkey
  rw [diff, filter_inPhases, hrow]
  cases h : planned.get? k with
  | none =>
    rw [Table.get?] at h
    simp [h]
  | some target =>
    have htarget := Table.key_of_get? h
    rw [Table.get?] at h
    simp [h, htarget, phases_writesFor]

/-- Where rows are planned, in which order does not show once they are written. -/
theorem get?_written_diff_congr {other : BackendSet} (h : ∀ k, other.get? k = planned.get? k)
    (s : BackendSet) (g : UInt32) (k : Backend.Key) :
    (written (diff current other g) s).get? k = (written (diff current planned g) s).get? k := by
  rw [get?_written, get?_written, filter_diff, filter_diff, h]

theorem mem_diff_iff {g : UInt32} {m : Mutation} :
    m ∈ diff current planned g ↔
      ∃ target, planned.get? m.key = some target ∧ m ∈ writesFor target (current.get? m.key) := by
  have hmem : m ∈ diff current planned g ↔ m ∈ (diff current planned g).filter (·.key = m.key) := by
    simp
  rw [hmem, filter_diff]
  cases planned.get? m.key <;> simp

/-- A set that agrees with the current one on the planned keys is taken to the plan there,
except that a new row that would be removed at once is not added, and is left as it is
elsewhere. -/
theorem get?_written_diff {s : BackendSet} {g : UInt32} {k : Backend.Key}
    (hs : planned.get? k ≠ none → s.get? k = current.get? k)
    (hr : ∀ old target, current.get? k = some old → planned.get? k = some target →
      old.Reworked target) :
    (written (diff current planned g) s).get? k =
      match planned.get? k with
      | none => s.get? k
      | some target =>
        if current.get? k = none ∧ target.isRemoved = true then none else some target := by
  rw [get?_written, filter_diff]
  cases h : planned.get? k with
  | none => rfl
  | some target =>
    rw [hs (by simp [h]), Option.map_some, Option.getD_some]
    exact rowAfter_writesFor fun old ho => hr old target ho h

theorem diff_eq_nil_iff {g : UInt32} :
    diff current planned g = [] ↔
      ∀ b ∈ planned.rows, b ∈ current.rows ∨
        (current.get? b.key = none ∧ b.isRemoved = true) := by
  have hmem : ∀ b : Backend, current.get? b.key = some b ↔ b ∈ current.rows := fun b =>
    Table.get?_eq_some_iff.trans (and_iff_left rfl)
  rw [List.eq_nil_iff_forall_not_mem]
  constructor
  · intro h b hb
    rw [← hmem, ← writesFor_eq_nil_iff, List.eq_nil_iff_forall_not_mem]
    intro m hm
    have hkey := key_of_mem_writesFor (fun old h => Table.key_of_get? h) hm
    apply h m
    rw [mem_diff_iff, hkey]
    exact ⟨b, Table.get?_key hb, hm⟩
  · intro h m hm
    obtain ⟨target, ht, hm⟩ := mem_diff_iff.1 hm
    have hnil := h target (Table.mem_of_get? ht)
    rw [← hmem, ← writesFor_eq_nil_iff, Table.key_of_get? ht] at hnil
    rw [hnil] at hm
    cases hm

end BackendSet

end SingleWriter
