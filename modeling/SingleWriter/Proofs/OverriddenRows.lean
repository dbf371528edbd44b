import SingleWriter.Proofs.Places
import SingleWriter.Proofs.Realisation

/-!
# Rows under an override

What setting or clearing an override does to a store in memory that is up and takes every
write. Where no row of the address is in the hostgroups the command fails and the store is
as it was. Otherwise each such row is registered once, however often its hostgroup is named,
and in its own place; no other row changes, and the one reload comes last.
-/

set_option autoImplicit false

namespace SingleWriter

open SingleWriter.Action

namespace BackendSet

def placed (s : BackendSet) (addr : Addr) (groups : List UInt32) : List Backend :=
  s.rows.filter fun b => b.addr = addr ∧ b.hostgroup ∈ groups

theorem mem_placed {s : BackendSet} {addr : Addr} {groups : List UInt32} {b : Backend} :
    b ∈ s.placed addr groups ↔ b ∈ s.rows ∧ b.addr = addr ∧ b.hostgroup ∈ groups := by
  simp [placed]

theorem written_registers (rows : List Backend) (s : BackendSet) :
    written (rows.map .register) s = rows.foldl Table.insert s := by
  rw [← foldl_effect, List.foldl_map]
  rfl

end BackendSet

namespace Store

variable {s : Store}

/-- A store without a limit takes every row. -/
theorem each_register_of_up (h : s.isDown = false) (hleft : s.writesLeft = none)
    (rows : List Backend) :
    each register rows s = .ok () (s.perform (rows.map .register)) := by
  induction rows generalizing s with
  | nil => exact congrArg _ (perform_nil s).symm
  | cons b rows ih =>
    have hfirst : register b s = .ok () (s.perform [.register b]) :=
      bind_of_ok (acceptWrite_of_up h (by simp [hleft]))
    have hrest := ih (s := s.perform [.register b]) h (by simp [perform, hleft])
    rw [each, bind_of_ok hfirst, hrest, perform_cons]
    rfl

end Store

namespace Reconciler

variable {σ : Type} {table : σ → BackendSet}

section

variable {r : Reconciler σ} {groups : List UInt32} {s u : σ} {current : BackendSet}
  (h : r.admin.Tabled table) (hload : r.load groups s = .ok current u)
include h hload

theorem mem_atAddr_of_load {addr : Addr} {b : Backend} :
    b ∈ current.rows.filter (·.addr = addr) ↔ b ∈ (table s).placed addr groups := by
  rw [BackendSet.mem_placed, List.mem_filter, mem_of_load h hload, decide_eq_true_iff, and_assoc,
    and_comm (a := b.addr = addr)]

/-- However often a hostgroup is named, each row of the address is loaded once. -/
theorem perm_atAddr_of_load (addr : Addr) :
    (current.rows.filter (·.addr = addr)).Perm ((table s).placed addr groups) := by
  have hrows : ∀ t : BackendSet, t.rows.Nodup := fun t => List.Nodup.of_map Backend.key t.nodup
  apply (List.perm_ext_iff_of_nodup ((hrows current).filter _) ((hrows (table s)).filter _)).2
  intro b
  exact mem_atAddr_of_load h hload

/-- Registering the rows of the address under an override changes them in their places. -/
theorem rows_of_overridden (addr : Addr) (status : Option Status) :
    (BackendSet.written (((current.rows.filter (·.addr = addr)).map (overridden status)).map
        .register) (table s)).rows =
      (table s).rows.map fun b =>
        if b.addr = addr ∧ b.hostgroup ∈ groups then overridden status b else b := by
  rw [BackendSet.written_registers]
  exact Table.rows_foldl_insert_map (fun _ => rfl) fun _ =>
    (mem_atAddr_of_load h hload).trans BackendSet.mem_placed

end

/-- What the command does once the rows are loaded. -/
theorem setOverride_of_load {nodes : NodeAccess Store} {monitor : Option Credentials}
    {groups : List UInt32} {store : Store} {current : BackendSet}
    (hload : (Reconciler.mk nodes Store.admin monitor).load groups store = .ok current store)
    (hup : store.isDown = false) (hleft : store.writesLeft = none) (addr : Addr)
    (status : Option Status) :
    (Reconciler.mk nodes Store.admin monitor).setOverride groups addr status store =
      if (current.rows.filter (·.addr = addr)).isEmpty then .error (.unregistered addr.text) store
      else .ok (current.rows.filter (·.addr = addr)).length
        ((store.perform (((current.rows.filter (·.addr = addr)).map
          (overridden status)).map .register)).record .reload) := by
  have hwritten := Store.each_register_of_up hup hleft
    ((current.rows.filter (·.addr = addr)).map (overridden status))
  rw [setOverride, bind_of_ok hload]
  refine (bind_of_ok hwritten).trans ?_
  split
  · rename_i hempty
    rw [List.isEmpty_iff] at hempty
    rw [hempty, List.map_nil, List.map_nil, Store.perform_nil]
    rfl
  · exact bind_of_ok (Store.reload_of_up hup)

/-- Setting or clearing an override changes exactly the rows of the node. On a store that is
up and has no limit, the command fails where no row of the address is in the hostgroups, and
then the store is as it was. Otherwise it returns the number of these rows, the override of
each is the one that was given, its status changes where one was given, and all else in the
table stays, in its order. The journal grows by a registration for each of these rows and
then the one reload. -/
theorem setOverride_changes_placed_rows (nodes : NodeAccess Store) (monitor : Option Credentials)
    (groups : List UInt32) (addr : Addr) (status : Option Status) (store : Store)
    (hup : store.isDown = false) (hleft : store.writesLeft = none) :
    (store.backends.placed addr groups = [] →
      (Reconciler.mk nodes Store.admin monitor).setOverride groups addr status store =
        .error (.unregistered addr.text) store) ∧
    (store.backends.placed addr groups ≠ [] →
      ∃ (store' : Store) (registered : List Backend),
        (Reconciler.mk nodes Store.admin monitor).setOverride groups addr status store =
          .ok (store.backends.placed addr groups).length store' ∧
        store'.backends.rows = store.backends.rows.map (fun b =>
          if b.addr = addr ∧ b.hostgroup ∈ groups then
            { b with
              status := status.getD b.status
              annotation := { b.annotation with override := status } }
          else b) ∧
        registered.Perm (store.backends.placed addr groups) ∧
        store'.journal = store.journal ++
          registered.map (fun b => .register b.key (status.getD b.status)) ++ [.reload] ∧
        store'.globals = store.globals ∧ store'.accounts = store.accounts ∧
        store'.isDown = false ∧ store'.writesLeft = none) := by
  have htabled : (Reconciler.mk nodes Store.admin monitor).admin.Tabled Store.backends :=
    Store.tabled_admin
  obtain ⟨current, hload⟩ := exists_load (r := ⟨nodes, Store.admin, monitor⟩)
    (Store.lists_of_up hup) groups
  have hperm := perm_atAddr_of_load htabled hload addr
  have hcommand := setOverride_of_load hload hup hleft addr status
  constructor
  · intro hnone
    rw [hnone] at hperm
    rw [hcommand, hperm.eq_nil]
    rfl
  · intro hsome
    have hnonempty : (current.rows.filter (·.addr = addr)).isEmpty = false := by
      rw [List.isEmpty_eq_false_iff]
      intro hnil
      rw [hnil] at hperm
      exact hsome hperm.symm.eq_nil
    rw [hcommand, hnonempty, hperm.length_eq]
    refine ⟨_, current.rows.filter (·.addr = addr), rfl, ?_, hperm, ?_, rfl, rfl, hup, ?_⟩
    · exact rows_of_overridden htabled hload addr status
    · change store.journal ++ List.map Mutation.call _ ++ [.reload] = _
      rw [List.map_map, List.map_map]
      rfl
    · exact congrArg (Option.map _) hleft

def sharedStore : Store where
  backends := Table.ofList [Backend.new 10 ⟨"db1", 3306⟩ .writer,
    Backend.new 11 ⟨"db2", 3306⟩ .reader,
    { Backend.new 11 ⟨"db1", 3306⟩ .reader .shunned with weight := 50 },
    Backend.new 20 ⟨"db1", 3306⟩ .none]

theorem setOverride_changes_placed_rows_of_sharedStore :
    sharedStore.isDown = false ∧ sharedStore.writesLeft = none ∧
    (Reconciler.mk PlanContext.unusedNodes Store.admin none).setOverride [11, 10, 11]
        ⟨"db9", 3306⟩ none sharedStore =
      .error (.unregistered "db9:3306") sharedStore ∧
    ∃ store', (Reconciler.mk PlanContext.unusedNodes Store.admin none).setOverride [11, 10, 11]
        ⟨"db1", 3306⟩ (some .offlineSoft) sharedStore = .ok 2 store' ∧
      store'.backends.rows =
        [(Backend.new 10 ⟨"db1", 3306⟩ .writer .offlineSoft).withOverride (some .offlineSoft),
          Backend.new 11 ⟨"db2", 3306⟩ .reader,
          { (Backend.new 11 ⟨"db1", 3306⟩ .reader .offlineSoft).withOverride
              (some .offlineSoft) with weight := 50 },
          Backend.new 20 ⟨"db1", 3306⟩ .none] := by
  refine ⟨rfl, rfl, ?_, ?_⟩
  · exact (setOverride_changes_placed_rows PlanContext.unusedNodes none [11, 10, 11]
      ⟨"db9", 3306⟩ none sharedStore rfl rfl).1 (by decide)
  · obtain ⟨store', registered, hok, hrows, -⟩ :=
      (setOverride_changes_placed_rows PlanContext.unusedNodes none [11, 10, 11] ⟨"db1", 3306⟩
        (some .offlineSoft) sharedStore rfl rfl).2 (by decide)
    refine ⟨store', hok, ?_⟩
    rw [hrows]
    decide

end Reconciler

end SingleWriter
