import SingleWriter.Proofs.Accounts

/-!
# Accounts through a modification

A modification takes the old rows out before it writes the changed ones, and nothing
brings the old ones back. Over any rostered store, whichever calls fail, the rows of other
usernames stay. As long as the old rows are not out the table is as it was, and once one
changed row is in the username has a row again. So a username that had a row is left
without one exactly when the old rows were taken out and the first changed row was refused,
and that refusal is what the modification reports.
-/

set_option autoImplicit false

namespace SingleWriter.Account

open SingleWriter.Action

variable {σ : Type} {admin : AdminStore σ} {roster : σ → Accounts} {username : String}
  {changes : Changes} {rows : List Account} {s t u v : σ}

structure Cleared (admin : AdminStore σ) (username : String) (changes : Changes) (s : σ)
    (rows : List Account) (v : σ) : Prop where
  nonempty : rows ≠ []
  changed : changes.isEmpty = false
  removed : ∃ u n, admin.accounts (some username) s = .ok rows u ∧
    admin.removeAccounts username u = .ok n v

def Stranded (admin : AdminStore σ) (username : String) (changes : Changes) (s : σ)
    (e : PassError) (t : σ) : Prop :=
  ∃ a rest v, Cleared admin username changes s (a :: rest) v ∧
    admin.putAccount (changes.apply a) v = .error e t

/-! ## The two halves of a modification -/

theorem modify_of_cleared (h : Cleared admin username changes s rows v) :
    modify admin username changes s =
      (do each admin.putAccount (firstPerKey (rows.map changes.apply)); admin.reloadAccounts) v := by
  obtain ⟨u, n, hlisted, hremoved⟩ := h.removed
  rw [modify, bind_of_ok (existing_eq_ok_iff.2 ⟨hlisted, h.nonempty⟩), h.changed]
  exact bind_of_ok hremoved

theorem roster_of_cleared (h : admin.Rostered roster)
    (hc : Cleared admin username changes s rows v) :
    roster v = (roster s).filter (·.username ≠ username) ∧
      ∀ a ∈ rows, a.username = username := by
  obtain ⟨u, n, hlisted, hremoved⟩ := hc.removed
  have hu : roster u = roster s := (h.accounts (some username)).ok hlisted
  constructor
  · rw [(h.removeAccounts username).ok hremoved, hu]
  · intro a ha
    simpa using (List.mem_filter.1 ((h.listed hlisted).mem_iff.1 ha)).2

/-- Before the old rows are out every end leaves the table. -/
theorem roster_of_not_cleared (h : admin.Rostered roster)
    (hnot : ∀ rows v, ¬Cleared admin username changes s rows v) :
    roster (stateAfter (modify admin username changes) s) = roster s := by
  have hkeep := keeps_existing h username
  cases hrows : existing admin username s with
  | error e u =>
    rw [modify, stateAfter_bind_of_error hrows]
    exact hkeep.error hrows
  | ok rows u =>
    have hu : roster u = roster s := hkeep.ok hrows
    obtain ⟨hlisted, hne⟩ := existing_eq_ok_iff.1 hrows
    rw [modify, stateAfter_bind_of_ok hrows, ← hu]
    cases hempty : changes.isEmpty with
    | true => rfl
    | false =>
      cases hremoved : admin.removeAccounts username u with
      | ok n v => exact absurd ⟨hne, hempty, u, n, hlisted, hremoved⟩ (hnot rows v)
      | error e v =>
        change roster (stateAfter (admin.removeAccounts username >>= _) u) = roster u
        rw [stateAfter_bind_of_error hremoved]
        exact (h.removeAccounts username).error hremoved

/-- Once the old rows are out some of the changed rows are put back, none of them only when
the first one is refused. -/
theorem roster_of_put_back (h : admin.Rostered roster)
    (hc : Cleared admin username changes s rows v) :
    ∃ done, (∀ a ∈ done, a.username = username) ∧
      roster (stateAfter (modify admin username changes) s) =
        done.foldl Table.insert ((roster s).filter (·.username ≠ username)) ∧
      (done = [] ↔ ∃ e t, Stranded admin username changes s e t) := by
  obtain ⟨hv, hname⟩ := roster_of_cleared h hc
  obtain ⟨done, hpre, hdone, hfirst⟩ :=
    stateAfter_each h.putAccount (firstPerKey (rows.map changes.apply)) v
  refine ⟨done, ?_, ?_, ?_⟩
  · intro a ha
    exact username_of_mem_changed hname (hpre.subset ha)
  · have hend : roster (stateAfter (modify admin username changes) s) = roster (stateAfter
        (do each admin.putAccount (firstPerKey (rows.map changes.apply)); admin.reloadAccounts) v) := by
      rw [stateAfter, modify_of_cleared hc, stateAfter]
    rw [hend, view_stateAfter_bind fun _ => h.reloadAccounts, hdone, hv]
  · cases rows with
    | nil => exact absurd rfl hc.nonempty
    | cons a rest =>
      rw [hfirst (changes.apply a) _ rfl]
      constructor
      · rintro ⟨e, t, hput⟩
        exact ⟨e, t, a, rest, v, hc, hput⟩
      · rintro ⟨e, t, b, others, w, hw, hput⟩
        obtain ⟨u, n, hlisted, hremoved⟩ := hc.removed
        obtain ⟨u', n', hlisted', hremoved'⟩ := hw.removed
        rw [hlisted] at hlisted'
        cases hlisted'
        rw [hremoved] at hremoved'
        cases hremoved'
        exact ⟨e, t, hput⟩

theorem modify_of_stranded {e : PassError} (h : Stranded admin username changes s e t) :
    modify admin username changes s = .error e t := by
  obtain ⟨a, rest, v, hc, hput⟩ := h
  rw [modify_of_cleared hc]
  exact bind_eq_error.2 (.inl (bind_eq_error.2 (.inl hput)))

/-! ## What is left -/

/-- A username whose rows were taken out has a row again as soon as one is put. -/
theorem no_row_of_foldl_insert_iff {done : List Account} (hdone : ∀ a ∈ done, a.username = username)
    (accounts : Accounts) :
    (∀ a ∈ (done.foldl Table.insert (accounts.filter (·.username ≠ username))).rows,
      a.username ≠ username) ↔ done = [] := by
  cases done with
  | nil => simp [Table.filter]
  | cons a rest =>
    simp only [reduceCtorEq, iff_false]
    intro hnone
    have hmem : a.key ∈ ((a :: rest).foldl Table.insert
        (accounts.filter (·.username ≠ username))).keys :=
      Table.mem_keys_foldl_insert.2 (.inl (by simp))
    obtain ⟨b, hb, hkey⟩ := List.mem_map.1 hmem
    apply hnone b hb
    rw [show b.username = a.username from congrArg Key.username hkey, hdone a (by simp)]

/-- Whatever fails, the rows of other usernames stay, and the account is lost exactly when the
first changed row is refused after the old rows were taken out. -/
theorem modify_loses_account_iff (h : admin.Rostered roster) (username : String)
    (changes : Changes) (s : σ) (hrow : ∃ a ∈ (roster s).rows, a.username = username) :
    let left := roster (stateAfter (modify admin username changes) s)
    left.rows.filter (·.username ≠ username) =
        (roster s).rows.filter (·.username ≠ username) ∧
      ((∀ a ∈ left.rows, a.username ≠ username) ↔
        ∃ e t, Stranded admin username changes s e t) ∧
      ∀ e t, Stranded admin username changes s e t →
        modify admin username changes s = .error e t := by
  intro left
  rw [← and_assoc]
  refine ⟨?_, fun e t => modify_of_stranded⟩
  by_cases hc : ∃ rows v, Cleared admin username changes s rows v
  · -- The table is without the username, and then a prefix of the changed rows is put.
    obtain ⟨rows, v, hc⟩ := hc
    obtain ⟨done, hdone, hleft, hfirst⟩ := roster_of_put_back h hc
    constructor
    · rw [show left = _ from hleft, others_of_foldl_insert hdone, others_of_filter]
    · rw [show left = _ from hleft, no_row_of_foldl_insert_iff hdone, hfirst]
  · have hleft : left = roster s :=
      roster_of_not_cleared h fun rows v hcleared => hc ⟨rows, v, hcleared⟩
    rw [hleft]
    refine ⟨rfl, ?_⟩
    constructor
    · intro hnone
      obtain ⟨a, ha, hname⟩ := hrow
      exact absurd hname (hnone a ha)
    · rintro ⟨e, t, a, rest, v, hcleared, -⟩
      exact absurd ⟨a :: rest, v, hcleared⟩ hc

/-! ## A refused row -/

def twoRows : Store where
  accounts := Table.ofList
    [{ username := "app", password := "pw" },
      { username := "app", password := "pw", backend := false },
      { username := "ops", password := "pw" }]

def fewer : Changes := { maxConnections := some 50 }

/-- The rows are written back in the order of their keys, so the refused row is the first. -/
theorem stranded_twoRows :
    ∃ t, Stranded (Store.refusing (·.backend = false)) "app" fewer twoRows Store.lost t ∧
      ∀ a ∈ t.accounts.rows, a.username ≠ "app" := by
  refine ⟨_, ⟨_, _, _, ⟨by simp, rfl, twoRows, 2, Store.listAccounts_of_up rfl "app", rfl⟩, rfl⟩, ?_⟩
  decide

theorem modify_loses_refused_account :
    ¬∀ (admin : AdminStore Store) (roster : Store → Accounts), admin.Rostered roster →
      ∀ (username : String) (changes : Changes) (s : Store),
        (∃ a ∈ (roster s).rows, a.username = username) →
        ∃ a ∈ (roster (stateAfter (modify admin username changes) s)).rows,
          a.username = username := by
  intro hall
  obtain ⟨t, hstranded, hnone⟩ := stranded_twoRows
  obtain ⟨a, ha, hname⟩ := hall (Store.refusing (·.backend = false)) Store.accounts
    (Store.rostered_refusing _) "app" fewer twoRows (by decide)
  rw [stateAfter_of_error (modify_of_stranded hstranded)] at ha
  exact hnone a ha hname

theorem modify_loses_account_iff_of_twoRows :
    (Store.refusing (·.backend = false)).Rostered Store.accounts ∧
    (∃ a ∈ twoRows.accounts.rows, a.username = "app") ∧
    let left :=
      (stateAfter (modify (Store.refusing (·.backend = false)) "app" fewer) twoRows).accounts
    left.rows.filter (·.username ≠ "app") = [{ username := "ops", password := "pw" }] ∧
      ∀ a ∈ left.rows, a.username ≠ "app" := by
  have hrow : ∃ a ∈ twoRows.accounts.rows, a.username = "app" := by decide
  obtain ⟨t, hstranded, -⟩ := stranded_twoRows
  have hrostered := Store.rostered_refusing (·.backend = false)
  obtain ⟨hothers, hlost, -⟩ := modify_loses_account_iff hrostered "app" fewer twoRows hrow
  refine ⟨hrostered, hrow, ?_, hlost.2 ⟨_, t, hstranded⟩⟩
  rw [hothers]
  decide

end SingleWriter.Account
