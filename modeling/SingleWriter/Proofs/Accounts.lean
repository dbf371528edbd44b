import SingleWriter.Proofs.Ledger
import SingleWriter.Account.Commands

/-!
# Accounts behind an admin store

An admin store is rostered when its accounts are a table that the state shows: a row that
is put is inserted, rows that are removed are filtered out, a call that fails leaves the
table, and a username lists its rows. The store in memory is rostered, also where it is
made to refuse some rows, and it lists the one or two rows of a username by their keys.
What happens to the rows of one username leaves the others. Of changed rows that meet at
one key the first is kept.
-/

set_option autoImplicit false

namespace SingleWriter

open SingleWriter.Action

structure AdminStore.Rostered {σ : Type} (admin : AdminStore σ) (roster : σ → Accounts) :
    Prop where
  putAccount : ∀ a, Makes roster (Table.insert · a) (admin.putAccount a)
  removeAccounts : ∀ username,
    Makes roster (Table.filter (·.username ≠ username)) (admin.removeAccounts username)
  reloadAccounts : Keeps roster admin.reloadAccounts
  accounts : ∀ username, Keeps roster (admin.accounts username)
  listed : ∀ {username s rows t}, admin.accounts (some username) s = .ok rows t →
    rows.Perm ((roster s).rows.filter (·.username = username))

namespace Account

variable {σ : Type} {admin : AdminStore σ} {roster : σ → Accounts} {username : String}

theorem existing_eq_ok_iff {rows : List Account} {s u : σ} :
    existing admin username s = .ok rows u ↔
      admin.accounts (some username) s = .ok rows u ∧ rows ≠ [] := by
  constructor
  · intro h
    obtain ⟨found, w, hw, h⟩ := bind_eq_ok.1 h
    cases found with
    | nil =>
      obtain ⟨_, _, hthrow, -⟩ := bind_eq_ok.1 h
      exact absurd hthrow throw_ne_ok
    | cons a rest =>
      cases h
      exact ⟨hw, List.cons_ne_nil a rest⟩
  · rintro ⟨h, hrows⟩
    refine (bind_of_ok h).trans ?_
    rw [List.isEmpty_eq_false_iff.2 hrows]
    rfl

theorem keeps_existing (h : admin.Rostered roster) (username : String) :
    Keeps roster (existing admin username) := by
  apply (h.accounts (some username)).bind
  intro rows
  change Keeps roster (if rows.isEmpty then throw _ >>= fun _ => pure rows else pure rows)
  split
  · exact (keeps_throw _).bind fun _ => keeps_pure rows
  · exact keeps_pure rows

end Account

/-! ## The store in memory -/

namespace Store

theorem makes_putAccount (a : Account) :
    Makes Store.accounts (Table.insert · a) (putAccount a) := by
  apply keeps_reachable.bind
  intro _
  constructor <;> intro s t x h <;> cases h
  rfl

theorem makes_removeAccounts (username : String) :
    Makes Store.accounts (Table.filter (·.username ≠ username)) (removeAccounts username) := by
  apply keeps_reachable.bind
  intro _
  constructor <;> intro s t n h <;> cases h
  rfl

theorem keeps_reloadAccounts : Keeps Store.accounts reloadAccounts := by
  apply keeps_reachable.bind
  intro _
  constructor <;> intro s t x h <;> cases h
  rfl

theorem keeps_listAccounts (username : Option String) :
    Keeps Store.accounts (listAccounts username) := by
  apply keeps_reachable.bind
  intro _
  constructor <;> intro s t rows h <;> cases h
  rfl

theorem perm_sortedAccounts (rows : List Account) : (sortedAccounts rows).Perm rows :=
  List.mergeSort_perm rows _

theorem perm_of_listAccounts {username : String} {s t : Store} {rows : List Account}
    (h : listAccounts (some username) s = .ok rows t) :
    rows.Perm (s.accounts.rows.filter (·.username = username)) := by
  obtain ⟨_, u, hu, h⟩ := bind_eq_ok.1 h
  have hkeep : Keeps Store.accounts reachable := keeps_reachable
  have hs : u.accounts = s.accounts := hkeep.ok hu
  cases h
  rw [← hs]
  exact perm_sortedAccounts _

theorem rostered_admin : admin.Rostered Store.accounts where
  putAccount := makes_putAccount
  removeAccounts := makes_removeAccounts
  reloadAccounts := keeps_reloadAccounts
  accounts := keeps_listAccounts
  listed := perm_of_listAccounts

def refusing (refused : Account → Bool) : AdminStore Store :=
  { admin with putAccount := fun a => if refused a then throw lost else putAccount a }

theorem rostered_refusing (refused : Account → Bool) :
    (refusing refused).Rostered Store.accounts :=
  { rostered_admin with
    putAccount := by
      intro a
      change Makes Store.accounts _ (if refused a then throw lost else putAccount a)
      split
      · constructor <;> intro s t x h <;> cases h
        rfl
      · exact makes_putAccount a }

end Store

/-! ## Rows of a username -/

namespace Account

instance : Std.TransOrd Key :=
  inferInstanceAs (Std.TransCmp (compareLex (compareOn Key.username) (compareOn Key.backend)))

instance : Std.LawfulEqOrd Key where
  eq_of_compare h := Table.eq_of_compareLex (by rintro ⟨⟩ ⟨⟩ rfl rfl; rfl) h

/-- The row that is not towards the backends comes first. -/
def rowsOf (username : String) (accounts : Accounts) : List Account :=
  [false, true].filterMap fun backend => accounts.get? ⟨username, backend⟩

variable {username : String} {accounts : Accounts}

theorem mem_rowsOf_iff {a : Account} :
    a ∈ rowsOf username accounts ↔ a ∈ accounts.rows ∧ a.username = username := by
  rw [rowsOf, List.mem_filterMap]
  constructor
  · rintro ⟨backend, -, ha⟩
    exact ⟨Table.mem_of_get? ha, congrArg Key.username (Table.key_of_get? ha)⟩
  · rintro ⟨ha, rfl⟩
    exact ⟨a.backend, by cases a.backend <;> simp, Table.get?_key ha⟩

theorem rowsOf_eq_nil_iff :
    rowsOf username accounts = [] ↔ ∀ a ∈ accounts.rows, a.username ≠ username := by
  simp only [List.eq_nil_iff_forall_not_mem, mem_rowsOf_iff, not_and, ne_eq]

theorem pairwise_rowsOf (username : String) (accounts : Accounts) :
    (rowsOf username accounts).Pairwise fun a b => (compare a.key b.key).isLE ∧ a.key ≠ b.key := by
  rw [rowsOf, List.pairwise_filterMap]
  simp only [List.pairwise_cons, List.mem_singleton]
  refine ⟨?_, by simp⟩
  rintro backend rfl a ha b hb
  rw [Table.key_of_get? ha, Table.key_of_get? hb]
  have hself : compare username username = .eq := Std.ReflCmp.compare_self
  refine ⟨?_, by simp⟩
  change ((compare username username).then (compare false true)).isLE
  rw [hself]
  rfl

theorem find?_rowsOf (k : Key) :
    (rowsOf username accounts).find? (·.key = k) =
      if k.username = username then accounts.get? k else none := by
  have hmem : ∀ a, a ∈ rowsOf username accounts ∧ a.key = k ↔
      k.username = username ∧ accounts.get? k = some a := by
    intro a
    rw [mem_rowsOf_iff, Table.get?_eq_some_iff]
    constructor
    · rintro ⟨⟨ha, rfl⟩, rfl⟩
      exact ⟨rfl, ha, rfl⟩
    · rintro ⟨rfl, ha, rfl⟩
      exact ⟨⟨ha, rfl⟩, rfl⟩
  cases hfind : (rowsOf username accounts).find? (·.key = k) with
  | some a =>
    have hkey : a.key = k := by simpa using List.find?_some hfind
    obtain ⟨hname, hget⟩ := (hmem a).1 ⟨List.mem_of_find?_eq_some hfind, hkey⟩
    rw [if_pos hname, hget]
  | none =>
    split
    · rename_i hname
      symm
      rw [Option.eq_none_iff_forall_ne_some]
      intro a ha
      obtain ⟨hrow, hkey⟩ := (hmem a).2 ⟨hname, ha⟩
      exact absurd hkey (by simpa using List.find?_eq_none.1 hfind a hrow)
    · rfl

/-! ## Rows of other usernames -/

theorem others_of_foldl_insert {done : List Account} (hdone : ∀ a ∈ done, a.username = username)
    (accounts : Accounts) :
    (done.foldl Table.insert accounts).rows.filter (·.username ≠ username) =
      accounts.rows.filter (·.username ≠ username) := by
  apply Table.filter_rows_foldl_insert
  intro a ha b hkey
  rw [show b.username = a.username from congrArg Key.username hkey, hdone a ha]
  simp

theorem others_of_filter (username : String) (accounts : Accounts) :
    (accounts.filter (·.username ≠ username)).rows.filter (·.username ≠ username) =
      accounts.rows.filter (·.username ≠ username) := by
  simp [Table.filter]

end Account

namespace Store

open Account

theorem sortedAccounts_eq_rowsOf (username : String) (accounts : Accounts) :
    sortedAccounts (accounts.rows.filter (·.username = username)) = rowsOf username accounts := by
  have hlisted := pairwise_rowsOf username accounts
  have hnodup : (rowsOf username accounts).Nodup := by
    refine hlisted.imp ?_
    rintro a b hab rfl
    exact hab.2 rfl
  have hperm : (accounts.rows.filter (·.username = username)).Perm (rowsOf username accounts) := by
    rw [List.perm_ext_iff_of_nodup ((List.Nodup.of_map _ accounts.nodup).filter _) hnodup]
    intro a
    rw [mem_rowsOf_iff, List.mem_filter, decide_eq_true_eq]
  apply Table.mergeSort_key_eq_of_pairwise (t := accounts) _ hperm (hlisted.imp And.left)
  intro a ha
  exact (List.mem_filter.1 ha).1

theorem listAccounts_of_up {s : Store} (h : s.isDown = false) (username : String) :
    listAccounts (some username) s = .ok (rowsOf username s.accounts) s := by
  rw [← sortedAccounts_eq_rowsOf]
  exact bind_of_ok (reachable_of_up h)

end Store

/-! ## Changed rows -/

namespace Account

theorem mem_of_mem_firstPerKey {a : Account} {rows : List Account} (h : a ∈ firstPerKey rows) :
    a ∈ rows := by
  induction rows with
  | nil => exact h
  | cons b rest ih =>
    rcases List.mem_cons.1 h with rfl | h
    · simp
    · exact List.mem_cons_of_mem b (ih (List.mem_of_mem_filter h))

theorem username_of_mem_changed {username : String} {rows : List Account} {changes : Changes}
    (h : ∀ a ∈ rows, a.username = username) {a : Account}
    (ha : a ∈ firstPerKey (rows.map changes.apply)) : a.username = username := by
  obtain ⟨b, hb, rfl⟩ := List.mem_map.1 (mem_of_mem_firstPerKey ha)
  exact h b hb

theorem nodup_firstPerKey (rows : List Account) : ((firstPerKey rows).map key).Nodup := by
  induction rows with
  | nil => exact List.nodup_nil
  | cons a rest ih =>
    rw [firstPerKey, List.map_cons, List.nodup_cons]
    refine ⟨?_, (List.filter_sublist.map key).nodup ih⟩
    rw [List.mem_map]
    rintro ⟨b, hb, hkey⟩
    simp [hkey] at hb

theorem find?_firstPerKey (rows : List Account) (k : Key) :
    (firstPerKey rows).find? (·.key = k) = rows.find? (·.key = k) := by
  induction rows with
  | nil => rfl
  | cons a rest ih =>
    rw [firstPerKey, List.find?_cons, List.find?_cons]
    by_cases hk : a.key = k
    · simp [hk]
    · simp only [hk, decide_false, List.find?_filter, decide_eq_true_eq, ← ih]
      congr 1
      funext b
      by_cases hb : b.key = k
      · simp [hb, Ne.symm hk]
      · simp [hb]

end Account

end SingleWriter
