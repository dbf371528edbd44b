import SingleWriter.Proofs.Accounts
import SingleWriter.Proofs.Places

/-!
# Runs of account commands

What a command does to a store in memory that is up. A command on a username without a
row fails and leaves the table; every other one succeeds, writes only rows of its own
username and ends with the one reload, save for a modification that changes nothing,
which leaves the store as it is. A modification may bring the two rows of a username to
one key, and then the row that was not towards the backends is the one that is kept. A
command never takes the store down, so all this holds at every point of a run.
-/

set_option autoImplicit false

namespace SingleWriter

open SingleWriter.Action

/-! ## Calls that a store takes -/

namespace Store

variable {s : Store}

def enrol (rows : List Account) (s : Store) : Store :=
  { s with
    accounts := rows.foldl Table.insert s.accounts
    journal := s.journal ++ rows.map fun a => .putAccount a.username }

def dismiss (username : String) (s : Store) : Store :=
  { s with
    accounts := s.accounts.filter (·.username ≠ username)
    journal := s.journal ++ [.removeAccounts username] }

theorem enrol_cons (a : Account) (rows : List Account) (s : Store) :
    (s.enrol [a]).enrol rows = s.enrol (a :: rows) := by
  simp [enrol]

theorem putAccount_of_up (h : s.isDown = false) (a : Account) :
    putAccount a s = .ok () (s.enrol [a]) := bind_of_ok (reachable_of_up h)

theorem each_putAccount_of_up (h : s.isDown = false) (rows : List Account) :
    each putAccount rows s = .ok () (s.enrol rows) := by
  induction rows generalizing s with
  | nil =>
    have hsame : s.enrol [] = s := by simp [enrol]
    rw [hsame]
    rfl
  | cons a rows ih =>
    have hrest : each putAccount rows (s.enrol [a]) = .ok () ((s.enrol [a]).enrol rows) := ih h
    rw [each, bind_of_ok (putAccount_of_up h a), hrest, enrol_cons]

theorem removeAccounts_of_up (h : s.isDown = false) (username : String) :
    removeAccounts username s =
      .ok (s.accounts.rows.countP (·.username = username)) (s.dismiss username) :=
  bind_of_ok (reachable_of_up h)

theorem reloadAccounts_of_up (h : s.isDown = false) :
    reloadAccounts s = .ok () (s.record .reloadAccounts) := bind_of_ok (reachable_of_up h)

theorem enrol_of_up (h : s.isDown = false) (rows : List Account) :
    (do each putAccount rows; reloadAccounts) s =
      .ok () ((s.enrol rows).record .reloadAccounts) := by
  rw [bind_of_ok (each_putAccount_of_up h rows)]
  exact reloadAccounts_of_up h

end Store

namespace Account

/-! ## Rows that are written back -/

section

variable {username : String} {accounts : Accounts}

/-- Writing the rows of a username with a new password changes them in place. -/
theorem rows_foldl_withPassword (username password : String) (accounts : Accounts) :
    (((rowsOf username accounts).map (withPassword password)).foldl Table.insert accounts).rows =
      accounts.rows.map fun a => if a.username = username then { a with password } else a :=
  Table.rows_foldl_insert_map (fun _ => rfl) fun _ => mem_rowsOf_iff

/-- The row that changes take to a key: the row that is there, unless the changes name a
side, which takes the first row of the username to that side. -/
def source (changes : Changes) (username : String) (accounts : Accounts) (backend : Bool) :
    Option Account :=
  match changes.backend with
  | none => accounts.get? ⟨username, backend⟩
  | some side =>
    if backend = side then
      (accounts.get? ⟨username, false⟩).or (accounts.get? ⟨username, true⟩)
    else none

structure Changed (changes : Changes) (old new : Account) : Prop where
  username : new.username = old.username
  password : new.password = old.password
  active : new.active = changes.active.getD old.active
  useSsl : new.useSsl = changes.useSsl.getD old.useSsl
  defaultHostgroup : new.defaultHostgroup = changes.defaultHostgroup.getD old.defaultHostgroup
  defaultSchema : new.defaultSchema = changes.defaultSchema.or old.defaultSchema
  schemaLocked : new.schemaLocked = changes.schemaLocked.getD old.schemaLocked
  transactionPersistent :
    new.transactionPersistent = changes.transactionPersistent.getD old.transactionPersistent
  fastForward : new.fastForward = changes.fastForward.getD old.fastForward
  backend : new.backend = changes.backend.getD old.backend
  frontend : new.frontend = changes.frontend.getD old.frontend
  maxConnections : new.maxConnections = changes.maxConnections.getD old.maxConnections

theorem changed_iff {changes : Changes} {old new : Account} :
    Changed changes old new ↔ new = changes.apply old := by
  constructor
  · obtain ⟨⟩ := new
    rintro ⟨rfl, rfl, rfl, rfl, rfl, rfl, rfl, rfl, rfl, rfl, rfl, rfl⟩
    rfl
  · rintro rfl
    exact ⟨rfl, rfl, rfl, rfl, rfl, rfl, rfl, rfl, rfl, rfl, rfl, rfl⟩

theorem rel_changed_iff {changes : Changes} {old new : Option Account} :
    Option.Rel (Changed changes) old new ↔ new = old.map changes.apply := by
  constructor
  · rintro (h | h)
    · exact congrArg some (changed_iff.1 h)
    · rfl
  · rintro rfl
    cases old with
    | none => exact .none
    | some a => exact .some (changed_iff.2 rfl)

theorem head?_rowsOf : (rowsOf username accounts).head? =
    (accounts.get? ⟨username, false⟩).or (accounts.get? ⟨username, true⟩) := by
  rw [rowsOf, List.head?_filterMap]
  cases hfalse : accounts.get? ⟨username, false⟩ <;>
    cases htrue : accounts.get? ⟨username, true⟩ <;> simp [hfalse, htrue]

theorem find?_changed (changes : Changes) (username : String) (accounts : Accounts)
    (backend : Bool) :
    ((rowsOf username accounts).map changes.apply).find? (·.key = ⟨username, backend⟩) =
      (source changes username accounts backend).map changes.apply := by
  have hkey : ∀ a ∈ rowsOf username accounts,
      (changes.apply a).key = ⟨username, changes.backend.getD a.backend⟩ := by
    intro a ha
    rw [← (mem_rowsOf_iff.1 ha).2]
    rfl
  rw [List.find?_map, source]
  congr 1
  cases hside : changes.backend with
  | none =>
    have hsame : (decide <| key · = ⟨username, backend⟩) ∘ changes.apply =
        fun a => decide (a.key = ⟨username, backend⟩) := by
      funext a
      simp [key, Changes.apply, hside]
    rw [hsame, find?_rowsOf, if_pos rfl]
  | some side =>
    -- Every row of the username has the same key after the changes, so the first one is found.
    dsimp only
    split
    · rename_i hb
      rw [← head?_rowsOf]
      cases hrows : rowsOf username accounts with
      | nil => rfl
      | cons a rest =>
        apply List.find?_cons_of_pos
        simp [hkey a (by simp [hrows]), hside, hb]
    · rename_i hb
      rw [List.find?_eq_none]
      intro a ha
      simp [hkey a ha, hside, Ne.symm hb]

/-- The rows of the username after the changes: at each key the row that the changes take
there, changed. -/
theorem get?_foldl_changed (changes : Changes) (username : String) (accounts : Accounts)
    (backend : Bool) :
    ((firstPerKey ((rowsOf username accounts).map changes.apply)).foldl Table.insert
        (accounts.filter (·.username ≠ username))).get? ⟨username, backend⟩ =
      (source changes username accounts backend).map changes.apply := by
  have hgone : (accounts.filter (·.username ≠ username)).get? ⟨username, backend⟩ = none := by
    rw [Table.get?_filter, Option.filter_eq_none_iff]
    intro a ha
    simp [show a.username = username from congrArg Key.username (Table.key_of_get? ha)]
  rw [Table.get?_foldl_insert_of_nodup (nodup_firstPerKey _), find?_firstPerKey, find?_changed,
    hgone, Option.or_none]

end

/-! ## Commands -/

inductive Command where
  | create (a : Account)
  | setPassword (username password : String)
  | modify (username : String) (changes : Changes)
  | delete (username : String)

namespace Command

def username : Command → String
  | create a => a.username
  | setPassword username _ => username
  | modify username _ => username
  | delete username => username

def action : Command → Action Store Unit
  | create a => Account.create Store.admin a
  | setPassword username password => Account.setPassword Store.admin username password
  | modify username changes => Account.modify Store.admin username changes
  | delete username => Account.delete Store.admin username

def Misses (accounts : Accounts) : Command → Prop
  | create _ => False
  | setPassword username _ => ∀ a ∈ accounts.rows, a.username ≠ username
  | modify username _ => ∀ a ∈ accounts.rows, a.username ≠ username
  | delete username => ∀ a ∈ accounts.rows, a.username ≠ username

def isIdle : Command → Bool
  | modify _ changes => changes = {}
  | _ => false

def Effect (before after : Accounts) : Command → Prop
  | create a =>
    after.get? a.key = some a ∧ ∀ k, k ≠ a.key → after.get? k = before.get? k
  | setPassword username password =>
    after.rows = before.rows.map fun a => if a.username = username then { a with password } else a
  | modify username changes =>
    if changes = {} then after = before
    else ∀ backend, Option.Rel (Changed changes) (source changes username before backend)
      (after.get? ⟨username, backend⟩)
  | delete username => ∀ a ∈ after.rows, a.username ≠ username

def Logs (before after : List Store.Call) (c : Command) : Prop :=
  if c.isIdle then after = before
  else ∃ writes, after = before ++ writes ++ [.reloadAccounts] ∧ .reloadAccounts ∉ writes

def written (s : Store) : Command → Store
  | create a => s.enrol [a]
  | setPassword username password =>
    s.enrol ((rowsOf username s.accounts).map (withPassword password))
  | modify username changes =>
    (s.dismiss username).enrol (firstPerKey ((rowsOf username s.accounts).map changes.apply))
  | delete username => s.dismiss username

variable {c : Command} {s : Store}

theorem existing_of_missing (h : s.isDown = false) {username : String}
    (hrows : rowsOf username s.accounts = []) :
    existing Store.admin username s = .error (.unknownUser username) s := by
  have hlisted := Store.listAccounts_of_up h username
  rw [hrows] at hlisted
  exact bind_of_ok hlisted

theorem existing_of_up (h : s.isDown = false) {username : String}
    (hrow : ¬∀ a ∈ s.accounts.rows, a.username ≠ username) :
    existing Store.admin username s = .ok (rowsOf username s.accounts) s := by
  rw [existing_eq_ok_iff, ne_eq, rowsOf_eq_nil_iff]
  exact ⟨Store.listAccounts_of_up h username, hrow⟩

theorem action_of_misses (h : s.isDown = false) (hmisses : c.Misses s.accounts) :
    ∃ t, c.action s = .error (.unknownUser c.username) t ∧ t.accounts = s.accounts ∧
      t.isDown = false := by
  cases c with
  | create a => exact hmisses.elim
  | setPassword username password =>
    have hmissing := existing_of_missing h (rowsOf_eq_nil_iff.2 hmisses)
    exact ⟨s, bind_eq_error.2 (.inl hmissing), rfl, h⟩
  | modify username changes =>
    have hmissing := existing_of_missing h (rowsOf_eq_nil_iff.2 hmisses)
    exact ⟨s, bind_eq_error.2 (.inl hmissing), rfl, h⟩
  | delete username =>
    have hnames : ∀ a ∈ s.accounts.rows, a.username ≠ username := hmisses
    have hnone : s.accounts.rows.countP (·.username = username) = 0 := by
      rw [List.countP_eq_zero]
      simpa using hnames
    have hremoved := Store.removeAccounts_of_up h username
    rw [hnone] at hremoved
    refine ⟨s.dismiss username, bind_of_ok hremoved, ?_, h⟩
    apply Table.ext_rows
    apply List.filter_eq_self.2
    simpa using hnames

theorem action_of_idle (h : s.isDown = false) (hhas : ¬c.Misses s.accounts)
    (hidle : c.isIdle = true) : c.action s = .ok () s := by
  cases c with
  | modify username changes =>
    have hempty : changes.isEmpty = true := hidle
    refine (bind_of_ok (existing_of_up h hhas)).trans ?_
    rw [hempty]
    rfl
  | _ => cases hidle

theorem action_of_up (h : s.isDown = false) (hhas : ¬c.Misses s.accounts)
    (hidle : c.isIdle = false) : c.action s = .ok () ((c.written s).record .reloadAccounts) := by
  cases c with
  | create a => exact (bind_of_ok (Store.putAccount_of_up h a)).trans (Store.reloadAccounts_of_up h)
  | setPassword username password =>
    refine (bind_of_ok (existing_of_up h hhas)).trans ?_
    exact Store.enrol_of_up h _
  | modify username changes =>
    have hchanged : changes.isEmpty = false := hidle
    refine (bind_of_ok (existing_of_up h hhas)).trans ?_
    rw [hchanged]
    refine (bind_of_ok (Store.removeAccounts_of_up h username)).trans ?_
    exact Store.enrol_of_up (s := s.dismiss username) h _
  | delete username =>
    have hsome : s.accounts.rows.countP (·.username = username) ≠ 0 := by
      intro hzero
      rw [List.countP_eq_zero] at hzero
      apply hhas
      intro a ha hname
      exact hzero a ha (by simpa using hname)
    refine (bind_of_ok (Store.removeAccounts_of_up h username)).trans ?_
    rw [if_neg hsome]
    exact Store.reloadAccounts_of_up h

/-! ## What a command leaves -/

theorem others_of_written (c : Command) (s : Store) :
    (c.written s).accounts.rows.filter (·.username ≠ c.username) =
      s.accounts.rows.filter (·.username ≠ c.username) := by
  cases c with
  | create a => exact others_of_foldl_insert (by simp [username]) s.accounts
  | setPassword username password =>
    apply others_of_foldl_insert
    intro a ha
    obtain ⟨b, hb, rfl⟩ := List.mem_map.1 ha
    exact (mem_rowsOf_iff.1 hb).2
  | modify username changes =>
    refine (others_of_foldl_insert ?_ _).trans (others_of_filter username s.accounts)
    intro a ha
    exact username_of_mem_changed (fun b hb => (mem_rowsOf_iff.1 hb).2) ha
  | delete username => exact others_of_filter username s.accounts

theorem effect_of_written (hidle : c.isIdle = false) :
    c.Effect s.accounts (c.written s).accounts := by
  cases c with
  | create a =>
    constructor
    · exact (Table.get?_insert s.accounts a a.key).trans (if_pos rfl)
    · intro k hk
      exact (Table.get?_insert s.accounts a k).trans (if_neg (Ne.symm hk))
  | setPassword username password => exact rows_foldl_withPassword username password s.accounts
  | modify username changes =>
    have hchanged : changes ≠ {} := by simpa [isIdle] using hidle
    rw [Effect, if_neg hchanged]
    exact fun backend => rel_changed_iff.2 (get?_foldl_changed changes username s.accounts backend)
  | delete username =>
    intro a ha
    simpa using (List.mem_filter.1 ha).2

theorem effect_of_idle (hidle : c.isIdle = true) : c.Effect s.accounts s.accounts := by
  cases c with
  | modify username changes =>
    have hempty : changes = {} := by simpa [isIdle] using hidle
    rw [Effect, if_pos hempty]
  | _ => cases hidle

theorem journal_of_written (c : Command) (s : Store) :
    ∃ writes, (c.written s).journal = s.journal ++ writes ∧ .reloadAccounts ∉ writes := by
  have hputs : ∀ rows : List Account, Store.Call.reloadAccounts ∉
      rows.map fun a => Store.Call.putAccount a.username := by simp
  cases c with
  | create a => exact ⟨_, rfl, hputs [a]⟩
  | setPassword username password => exact ⟨_, rfl, hputs _⟩
  | modify username changes => exact ⟨_, List.append_assoc _ _ _, by simp⟩
  | delete username => exact ⟨_, rfl, by simp⟩

theorem action_of_not_misses (h : s.isDown = false) (hhas : ¬c.Misses s.accounts) :
    ∃ t, c.action s = .ok () t ∧ c.Effect s.accounts t.accounts ∧ c.Logs s.journal t.journal ∧
      t.accounts.rows.filter (·.username ≠ c.username) =
        s.accounts.rows.filter (·.username ≠ c.username) ∧ t.isDown = false := by
  cases hidle : c.isIdle with
  | true =>
    exact ⟨s, action_of_idle h hhas hidle, effect_of_idle hidle, by simp [Logs, hidle], rfl, h⟩
  | false =>
    obtain ⟨writes, hwrites, hreload⟩ := journal_of_written c s
    refine ⟨_, action_of_up h hhas hidle, effect_of_written hidle, ?_, others_of_written c s, ?_⟩
    · rw [Logs, if_neg (by simp [hidle])]
      refine ⟨writes, ?_, hreload⟩
      rw [← hwrites]
      rfl
    · cases c <;> exact h

/-- Whether or not it fails, a command leaves the rows of other usernames and the store up. -/
theorem stateAfter_action (c : Command) (h : s.isDown = false) :
    (stateAfter c.action s).accounts.rows.filter (·.username ≠ c.username) =
        s.accounts.rows.filter (·.username ≠ c.username) ∧
      (stateAfter c.action s).isDown = false := by
  by_cases hmisses : c.Misses s.accounts
  · obtain ⟨t, ht, hsame, hup⟩ := action_of_misses h hmisses
    rw [stateAfter_of_error ht, hsame]
    exact ⟨rfl, hup⟩
  · obtain ⟨t, ht, -, -, hothers, hup⟩ := action_of_not_misses h hmisses
    rw [stateAfter_of_ok ht]
    exact ⟨hothers, hup⟩

/-! ## Runs -/

def run (cs : List Command) (s : Store) : Store :=
  cs.foldl (fun s c => stateAfter c.action s) s

theorem isDown_run (cs : List Command) (h : s.isDown = false) : (run cs s).isDown = false := by
  induction cs generalizing s with
  | nil => exact h
  | cons c cs ih => exact ih (stateAfter_action c h).2

/-- A run that never names a username leaves its rows in place. -/
theorem rows_run_of_not_named {cs : List Command} {username : String} (h : s.isDown = false)
    (hcs : ∀ c ∈ cs, c.username ≠ username) :
    (run cs s).accounts.rows.filter (·.username = username) =
      s.accounts.rows.filter (·.username = username) := by
  induction cs generalizing s with
  | nil => rfl
  | cons c cs ih =>
    obtain ⟨hothers, hup⟩ := stateAfter_action c h
    have hwithin : ∀ rows : List Account, (rows.filter (·.username ≠ c.username)).filter
        (·.username = username) = rows.filter (·.username = username) := by
      intro rows
      rw [List.filter_filter]
      apply List.filter_congr
      intro a _
      by_cases ha : a.username = username <;> simp [ha, Ne.symm (hcs c (by simp))]
    refine (ih hup fun d hd => hcs d (by simp [hd])).trans ?_
    rw [← hwithin, hothers, hwithin]

/-- At every point of a run on a store that is up, the next command fails exactly when it
needs a row that is not there, and leaves the table then; otherwise it has its effect and
logs it. The rows of other usernames stay either way. -/
theorem settles_after_run (before : List Command) (c : Command) {s : Store}
    (hup : s.isDown = false) :
    let reached := run before s
    let left := stateAfter c.action reached
    (left.accounts.rows.map key).Nodup ∧
      left.accounts.rows.filter (·.username ≠ c.username) =
        reached.accounts.rows.filter (·.username ≠ c.username) ∧
      (c.Misses reached.accounts →
        c.action reached = .error (.unknownUser c.username) left ∧
          left.accounts = reached.accounts) ∧
      (¬c.Misses reached.accounts →
        c.action reached = .ok () left ∧ c.Effect reached.accounts left.accounts ∧
          c.Logs reached.journal left.journal) := by
  intro reached left
  have hreached : reached.isDown = false := isDown_run before hup
  refine ⟨left.accounts.nodup, (stateAfter_action c hreached).1, ?_, ?_⟩
  · intro hmisses
    obtain ⟨t, ht, hsame, -⟩ := action_of_misses hreached hmisses
    have hleft : left = t := stateAfter_of_error ht
    rw [hleft]
    exact ⟨ht, hsame⟩
  · intro hhas
    obtain ⟨t, ht, heffect, hlogs, -⟩ := action_of_not_misses hreached hhas
    have hleft : left = t := stateAfter_of_ok ht
    rw [hleft]
    exact ⟨ht, heffect, hlogs⟩

/-- Two rows that meet at one key: the one that was not towards the backends is kept, with
the columns that the changes name. -/
theorem settles_after_run_of_meeting_rows :
    let before := [create { username := "app", password := "outer", backend := false },
      create { username := "app", password := "inner" }]
    let changes : Changes :=
      { active := some false, defaultSchema := some "shop", backend := some true,
        maxConnections := some 7 }
    let left := stateAfter (modify "app" changes).action (run before {})
    ({} : Store).isDown = false ∧
      left.accounts.get? ⟨"app", true⟩ =
        some ⟨"app", "outer", false, false, 0, some "shop", false, false, false, true, true, 7⟩ ∧
      left.accounts.get? ⟨"app", false⟩ = none := by
  intro before changes left
  have hhas : ¬(modify "app" changes).Misses (run before {}).accounts := by
    intro hmisses
    exact hmisses _ List.mem_cons_self rfl
  obtain ⟨-, -, -, hok⟩ := settles_after_run before (modify "app" changes) (s := {}) rfl
  obtain ⟨-, heffect, -⟩ := hok hhas
  have hmoved : ∀ backend, Option.Rel (Changed changes) _ (left.accounts.get? ⟨"app", backend⟩) :=
    heffect
  refine ⟨rfl, ?_, ?_⟩
  · rw [rel_changed_iff.1 (hmoved true)]
    rfl
  · rw [rel_changed_iff.1 (hmoved false)]
    rfl

end Command

end Account

end SingleWriter
