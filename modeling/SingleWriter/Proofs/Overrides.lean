import SingleWriter.Proofs.Admin
import SingleWriter.Proofs.Handover

/-!
# Overrides

What setting or clearing an override leaves in the table: the rows of the address that
were registered carry the override and take it for their status, and all other rows are
as before. A second writer comes online exactly when the override is to `ONLINE`, the
writer row of the address is among them, and the writer row of another node is online.
-/

set_option autoImplicit false

namespace SingleWriter

open SingleWriter.Action

/-! ## Overridden rows -/

namespace BackendSet

variable {s current : BackendSet} {addr : Addr} {status : Option Status} {done : List Backend}
  {g : UInt32} {a : Addr}

def OverriddenFrom (s current : BackendSet) (addr : Addr) (status : Option Status)
    (done : List Backend) : Prop :=
  (∀ b ∈ current.rows, s.get? b.key = some b) ∧
    done <+: (current.rows.filter (·.addr = addr)).map (Reconciler.overridden status)

theorem key_overridden (status : Option Status) (b : Backend) :
    (Reconciler.overridden status b).key = b.key := rfl

theorem OverriddenFrom.exists_old (h : OverriddenFrom s current addr status done) {b : Backend}
    (hb : b ∈ done) :
    ∃ old, s.get? b.key = some old ∧ b.addr = addr ∧ b = Reconciler.overridden status old := by
  obtain ⟨old, hold, rfl⟩ := List.mem_map.1 (h.2.subset hb)
  obtain ⟨hmem, hat⟩ := List.mem_filter.1 hold
  have haddr : old.addr = addr := by simpa using hat
  exact ⟨old, h.1 old hmem, haddr, rfl⟩

theorem OverriddenFrom.get?_foldl_insert (h : OverriddenFrom s current addr status done)
    (k : Backend.Key) :
    (done.foldl Table.insert s).get? k =
      if k ∈ done.map Backend.key then (s.get? k).map (Reconciler.overridden status)
      else s.get? k := by
  rw [Table.get?_foldl_insert]
  cases hfind : done.reverse.find? (·.key = k) with
  | none =>
    have hnot : k ∉ done.map Backend.key := by
      intro hk
      obtain ⟨b, hb, rfl⟩ := List.mem_map.1 hk
      simpa using List.find?_eq_none.1 hfind b (List.mem_reverse.2 hb)
    rw [if_neg hnot, Option.none_or]
  | some b =>
    have hb : b ∈ done := List.mem_reverse.1 (List.mem_of_find?_eq_some hfind)
    have hk : b.key = k := by simpa using List.find?_some hfind
    obtain ⟨old, hold, -, hnew⟩ := h.exists_old hb
    rw [if_pos (List.mem_map.2 ⟨b, hb, hk⟩), ← hk, hold, Option.some_or, Option.map_some, ← hnew]

theorem isOnline_overridden (status : Option Status) (b : Backend) :
    (Reconciler.overridden status b).isOnline = decide (status.getD b.status = .online) := rfl

/-- A row that an override brings online was online before, or the override is to `ONLINE`. -/
theorem OverriddenFrom.onlineAt_cases (h : OverriddenFrom s current addr status done)
    (ha : BackendSet.OnlineAt (done.foldl Table.insert s) g a) :
    s.OnlineAt g a ∨ (a = addr ∧ status = some .online ∧ ⟨g, addr⟩ ∈ done.map Backend.key) := by
  obtain ⟨b, hb, ho⟩ := ha
  rw [find?, h.get?_foldl_insert] at hb
  split at hb
  · rename_i hk
    obtain ⟨old, hold, rfl⟩ := Option.map_eq_some_iff.1 hb
    obtain ⟨c, hc, hck⟩ := List.mem_map.1 hk
    obtain ⟨-, -, haddr, -⟩ := h.exists_old hc
    have hac : a = addr := (congrArg Backend.Key.addr hck).symm.trans haddr
    rw [isOnline_overridden, decide_eq_true_eq] at ho
    cases status with
    | none => exact .inl ⟨old, hold, Backend.isOnline_iff.2 ho⟩
    | some st =>
      have hst : st = .online := ho
      exact .inr ⟨hac, by rw [hst], hac ▸ hk⟩
  · exact .inl ⟨b, hb, ho⟩

theorem OverriddenFrom.onlineAt_of_ne (h : OverriddenFrom s current addr status done)
    (hne : a ≠ addr) (ha : s.OnlineAt g a) :
    BackendSet.OnlineAt (done.foldl Table.insert s) g a := by
  obtain ⟨b, hb, ho⟩ := ha
  refine ⟨b, ?_, ho⟩
  rw [find?, h.get?_foldl_insert, if_neg]
  · exact hb
  · intro hk
    obtain ⟨c, hc, hck⟩ := List.mem_map.1 hk
    obtain ⟨-, -, haddr, -⟩ := h.exists_old hc
    exact hne ((congrArg Backend.Key.addr hck).symm.trans haddr)

theorem OverriddenFrom.onlineAt_self (h : OverriddenFrom s current addr (some .online) done)
    (hk : ⟨g, addr⟩ ∈ done.map Backend.key) :
    BackendSet.OnlineAt (done.foldl Table.insert s) g addr := by
  obtain ⟨c, hc, hck⟩ := List.mem_map.1 hk
  obtain ⟨old, hold, -, -⟩ := h.exists_old hc
  refine ⟨Reconciler.overridden (some .online) old, ?_, rfl⟩
  rw [find?, h.get?_foldl_insert, if_pos hk, ← hck, hold]
  rfl

/-- Beside another online row, the override to `ONLINE` makes two. -/
theorem OverriddenFrom.one_lt_length_onlineIn
    (h : OverriddenFrom s current addr (some .online) done)
    (hk : ⟨g, addr⟩ ∈ done.map Backend.key) {other : Addr} (hother : other ≠ addr)
    (ho : s.OnlineAt g other) : 1 < (BackendSet.onlineIn (done.foldl Table.insert s) g).length := by
  by_contra hle
  have hafter := length_onlineIn_le_one_iff.1 (Nat.not_lt.1 hle)
  exact hother (hafter other addr (h.onlineAt_of_ne hother ho) (h.onlineAt_self hk))

/-- From a single online row, an override leaves a single one unless it brings the row of
its address online beside another. -/
theorem OverriddenFrom.length_onlineIn_le_one (h : OverriddenFrom s current addr status done)
    (hone : (s.onlineIn g).length ≤ 1)
    (hclash : ¬ (status = some .online ∧ ⟨g, addr⟩ ∈ done.map Backend.key ∧
      ∃ other, other ≠ addr ∧ s.OnlineAt g other)) :
    (BackendSet.onlineIn (done.foldl Table.insert s) g).length ≤ 1 := by
  rw [length_onlineIn_le_one_iff] at hone ⊢
  intro a b ha hb
  have halone : ∀ c, status = some .online → ⟨g, addr⟩ ∈ done.map Backend.key →
      s.OnlineAt g c → c = addr := by
    intro c hst hk hc
    by_contra hne
    exact hclash ⟨hst, hk, c, hne, hc⟩
  rcases h.onlineAt_cases ha with ha | ⟨rfl, hst, hk⟩
  · rcases h.onlineAt_cases hb with hb | ⟨rfl, hst, hk⟩
    · exact hone a b ha hb
    · exact halone a hst hk ha
  · rcases h.onlineAt_cases hb with hb | ⟨rfl, -, -⟩
    · exact (halone b hst hk hb).symm
    · rfl

end BackendSet

/-! ## The command -/

namespace Reconciler

variable {σ : Type} {table : σ → BackendSet} {r : Reconciler σ} {groups : List UInt32} {s u : σ}
  {current : BackendSet}

/-- The rows of the first hostgroup come first. -/
theorem rows_of_load_cons (h : r.admin.Tabled table) {g : UInt32} {rest : List UInt32}
    (hg : (g :: rest).Nodup) (hload : r.load (g :: rest) s = .ok current u) :
    ∃ first others, current.rows = first ++ others ∧ first.Perm ((table s).inHostgroup g) := by
  obtain ⟨rows, v, hv, hload⟩ := bind_eq_ok.1 hload
  have hnodup := ((perm_loadRows h hv).map Backend.key).nodup_iff.2
    (BackendSet.nodup_key_flatMap (table s) hg)
  obtain ⟨first, w, hw, hv⟩ := bind_eq_ok.1 hv
  obtain ⟨others, x, hx, hv⟩ := bind_eq_ok.1 hv
  have hrows := (pure_eq_ok.1 hv).1
  refine ⟨first, others, ?_, perm_backendsOrNone h hw⟩
  rw [← (pure_eq_ok.1 hload).1, Table.rows_ofList hnodup, hrows]

/-- Rows that were loaded are rows of the table. -/
theorem overriddenFrom_of_load (h : r.admin.Tabled table)
    (hload : r.load groups s = .ok current u) {addr : Addr} {status : Option Status}
    {done : List Backend}
    (hpre : done <+: (current.rows.filter (·.addr = addr)).map (overridden status)) :
    (table s).OverriddenFrom current addr status done := by
  refine ⟨?_, hpre⟩
  intro b hb
  exact Table.get?_key ((mem_of_load h hload).1 hb).1

/-- What the command leaves once the rows are loaded. The first row that is registered is
the first one of the address. -/
theorem stateAfter_setOverride (h : r.admin.Tabled table)
    (hload : r.load groups s = .ok current u) (addr : Addr) (status : Option Status) :
    ∃ done, (table s).OverriddenFrom current addr status done ∧
      table (stateAfter (r.setOverride groups addr status) s) =
        done.foldl Table.insert (table s) ∧
      ∀ b rest, (current.rows.filter (·.addr = addr)).map (overridden status) = b :: rest →
        (done = [] ↔ ∃ e t, r.admin.register b u = .error e t) := by
  have hsame : table u = table s := (keeps_load h.backends groups).ok hload
  obtain ⟨done, hpre, htable, hfirst⟩ := stateAfter_each (fun b => h.register b)
    ((current.rows.filter (·.addr = addr)).map (overridden status)) u
  refine ⟨done, overriddenFrom_of_load h hload hpre, ?_, hfirst⟩
  have hreload : Keeps table (r.admin.reload >>= fun _ =>
      pure (current.rows.filter (·.addr = addr)).length) := h.reload.bind fun _ => keeps_pure _
  rw [hsame] at htable
  refine Eq.trans ?_ htable
  unfold setOverride
  rw [stateAfter_bind_of_ok hload]
  apply view_stateAfter_bind
  intro _
  split
  · exact (keeps_throw _).bind fun _ => hreload
  · exact hreload

/-- A command that succeeds has registered every row of the address that was loaded, and
there was one. -/
theorem setOverride_eq_ok (h : r.admin.Tabled table) {addr : Addr} {status : Option Status}
    {n : Nat} {t : σ} (hok : r.setOverride groups addr status s = .ok n t) :
    ∃ current u, r.load groups s = .ok current u ∧
      (∃ b ∈ current.rows, b.addr = addr) ∧
      table t = ((current.rows.filter (·.addr = addr)).map
        (overridden status)).foldl Table.insert (table s) := by
  obtain ⟨current, u, hload, hok⟩ := bind_eq_ok.1 hok
  have hsame : table u = table s := (keeps_load h.backends groups).ok hload
  obtain ⟨_, v, hv, hok⟩ := bind_eq_ok.1 hok
  have hregistered : table v = ((current.rows.filter (·.addr = addr)).map
      (overridden status)).foldl Table.insert (table s) := by
    rcases each_cases (fun b => h.register b) ((current.rows.filter (·.addr = addr)).map
      (overridden status)) u with ⟨w, hw, htable⟩ | ⟨e, w, hw, -⟩
    · rw [hv] at hw
      cases hw
      rw [htable, hsame]
      rfl
    · rw [hv] at hw
      cases hw
  refine ⟨current, u, hload, ?_⟩
  by_cases hempty : (current.rows.filter (·.addr = addr)).isEmpty = true
  · rw [if_pos hempty] at hok
    obtain ⟨_, _, hthrow, -⟩ := bind_eq_ok.1 hok
    exact absurd hthrow throw_ne_ok
  · rw [if_neg hempty] at hok
    obtain ⟨_, w, hw, hok⟩ := bind_eq_ok.1 hok
    obtain ⟨-, rfl⟩ := pure_eq_ok.1 hok
    obtain ⟨b, hb⟩ := List.exists_mem_of_ne_nil _ (mt List.isEmpty_iff.2 hempty)
    obtain ⟨hmem, haddr⟩ := List.mem_filter.1 hb
    exact ⟨⟨b, hmem, by simpa using haddr⟩, (h.reload.ok hw).trans hregistered⟩

/-- A command that succeeds has overridden every row of the address in the hostgroups, and
there was one. -/
theorem find?_of_setOverride (h : r.admin.Tabled table) (hg : groups.Nodup) {addr : Addr}
    {status : Option Status} {n : Nat} {t : σ}
    (hok : r.setOverride groups addr status s = .ok n t) :
    (∀ g ∈ groups, (table t).find? g addr =
      ((table s).find? g addr).map (overridden status)) ∧
    ∃ g ∈ groups, ∃ b, (table s).find? g addr = some b := by
  obtain ⟨current, u, hload, ⟨b, hb, haddr⟩, htable⟩ := setOverride_eq_ok h hok
  have hloaded := get?_of_load h hg hload
  constructor
  · intro g hgroup
    have hcurrent := hloaded ⟨g, addr⟩
    rw [if_pos hgroup] at hcurrent
    have hfrom : (table s).OverriddenFrom current addr status
        ((current.rows.filter (·.addr = addr)).map (overridden status)) :=
      overriddenFrom_of_load h hload List.prefix_rfl
    rw [htable, BackendSet.find?, hfrom.get?_foldl_insert, BackendSet.find?]
    cases hrow : (table s).get? ⟨g, addr⟩ with
    | none => simp
    | some old =>
      rw [hrow] at hcurrent
      have hkey : old.key = ⟨g, addr⟩ := Table.key_of_get? hrow
      have hat : old.addr = addr := congrArg Backend.Key.addr hkey
      have hold : old ∈ current.rows.filter (·.addr = addr) :=
        List.mem_filter.2 ⟨Table.mem_of_get? hcurrent, by simpa using hat⟩
      rw [if_pos]
      exact List.mem_map.2 ⟨_, List.mem_map.2 ⟨old, hold, rfl⟩, hkey⟩
  · obtain ⟨hmem, hin⟩ := (mem_of_load h hload).1 hb
    exact ⟨b.hostgroup, hin, b, BackendSet.find?_eq_some_iff.2 ⟨hmem, rfl, haddr⟩⟩

end Reconciler

end SingleWriter
