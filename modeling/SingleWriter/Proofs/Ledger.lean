import SingleWriter.Proofs.Admin

/-!
# Ledgers

What a commit leaves in a store in memory, entry by entry. A store that is up takes the
variables, then one write after the other until it takes no more, and then the reload.
Every write that it takes changes the rows and is one entry of the journal, and the write
that it does not take leaves nothing. A store that is a part of a larger state does there
what it does alone.
-/

set_option autoImplicit false

namespace SingleWriter

open SingleWriter.Action

namespace Mutation

def call : Mutation → Store.Call
  | .register b => .register b.key b.status
  | .deregister b => .deregister b.key
  | .setStatus b => .setStatus b.key b.status

def Applies (s : BackendSet) : Mutation → Prop
  | .setStatus b => s.contains b.key = true
  | _ => True

theorem applies_effect {s : BackendSet} {m : Mutation} (h : m.Applies s)
    (before : Mutation) : m.Applies (before.effect s) := by
  cases m with
  | setStatus b =>
    change Table.contains s b.key = true at h
    change Table.contains (before.effect s) b.key = true
    rw [Table.contains_eq_isSome] at h ⊢
    rw [get?_effect]
    obtain ⟨row, hrow⟩ := Option.isSome_iff_exists.1 h
    split
    · cases before <;> simp [onRow, hrow]
    · exact h
  | _ => trivial

end Mutation

namespace BackendSet

variable {current planned : BackendSet}

/-- A difference sets the status only of rows that are there. -/
theorem applies_diff {g : UInt32} {m : Mutation} (hm : m ∈ diff current planned g)
    {s : BackendSet} (hs : planned.get? m.key ≠ none → s.get? m.key = current.get? m.key) :
    m.Applies s := by
  obtain ⟨target, ht, hm⟩ := mem_diff_iff.1 hm
  have hkey := hs (by simp [ht])
  cases m with
  | setStatus b =>
    obtain ⟨-, old, hold⟩ := setStatus_mem_writesFor hm
    change Table.contains s (Mutation.setStatus b).key = true
    rw [Table.contains_eq_isSome, hkey, hold]
    rfl
  | _ => trivial

end BackendSet

namespace Store

def refused : PassError := .adminFailed "connection refused by admin interface"

def lost : PassError := .adminFailed "lost connection during statement"

def assign (vars : List (String × String)) (s : Store) : Store :=
  vars.foldl (fun s v =>
    record (.setVariable v.1) { s with globals := v :: s.globals.filter (·.1 ≠ v.1) }) s

def perform (ms : List Mutation) (s : Store) : Store :=
  { s with
    backends := BackendSet.written ms s.backends
    journal := s.journal ++ ms.map Mutation.call
    writesLeft := s.writesLeft.map (· - ms.length) }

variable {s : Store}

theorem isDown_assign (vars : List (String × String)) (s : Store) :
    (s.assign vars).isDown = s.isDown := by
  induction vars generalizing s with
  | nil => rfl
  | cons v vars ih => exact ih _

theorem writesLeft_assign (vars : List (String × String)) (s : Store) :
    (s.assign vars).writesLeft = s.writesLeft := by
  induction vars generalizing s with
  | nil => rfl
  | cons v vars ih => exact ih _

theorem backends_assign (vars : List (String × String)) (s : Store) :
    (s.assign vars).backends = s.backends := by
  induction vars generalizing s with
  | nil => rfl
  | cons v vars ih => exact ih _

theorem journal_assign (vars : List (String × String)) (s : Store) :
    (s.assign vars).journal = s.journal ++ vars.map fun v => .setVariable v.1 := by
  induction vars generalizing s with
  | nil => simp [assign]
  | cons v vars ih =>
    refine (ih _).trans ?_
    simp [record]

theorem perform_nil (s : Store) : s.perform [] = s := by
  simp [perform, BackendSet.written]

theorem perform_cons (m : Mutation) (ms : List Mutation) (s : Store) :
    (s.perform [m]).perform ms = s.perform (m :: ms) := by
  cases hleft : s.writesLeft <;>
    simp [perform, BackendSet.written, hleft, Nat.sub_sub, Nat.add_comm]

/-! ## Single calls -/

theorem reachable_of_down (h : s.isDown = true) : reachable s = .error refused s := by
  rw [reachable, h]
  rfl

theorem setVariable_of_up (h : s.isDown = false) (v : String × String) :
    setVariable v.1 v.2 s = .ok () (s.assign [v]) := bind_of_ok (reachable_of_up h)

theorem reload_of_up (h : s.isDown = false) : reload s = .ok () (s.record .reload) :=
  bind_of_ok (reachable_of_up h)

theorem acceptWrite_of_up (h : s.isDown = false) (hleft : s.writesLeft ≠ some 0) :
    acceptWrite s = .ok () { s with writesLeft := s.writesLeft.map (· - 1) } := by
  cases hn : s.writesLeft with
  | none =>
    have hsame : s = { s with writesLeft := none } := by rw [← hn]
    have haccept : acceptWrite s = .ok () s := by
      rw [acceptWrite, h, hn]
      rfl
    rw [haccept, Option.map_none, ← hsame]
  | some n =>
    cases n with
    | zero => exact absurd hn hleft
    | succ n =>
      rw [acceptWrite, h, hn]
      rfl

theorem acceptWrite_of_spent (h : s.isDown = false) (hleft : s.writesLeft = some 0) :
    acceptWrite s = .error lost s := by
  unfold acceptWrite
  rw [h, hleft]
  rfl

variable {r : Reconciler Store}

theorem applyOne_of_up (hr : r.admin = admin) (h : s.isDown = false)
    (hleft : s.writesLeft ≠ some 0) {m : Mutation} (hm : m.Applies s.backends) :
    r.applyOne m s = .ok () (s.perform [m]) := by
  have haccept := acceptWrite_of_up h hleft
  cases m with
  | register b =>
    rw [Reconciler.applyOne, hr]
    exact bind_of_ok haccept
  | deregister b =>
    rw [Reconciler.applyOne, hr]
    exact bind_of_ok haccept
  | setStatus b =>
    rw [Reconciler.applyOne, hr]
    refine (bind_of_ok haccept).trans ?_
    change (if s.backends.contains b.key = true then _ else _ : Action Store Unit) _ = _
    have hrow : s.backends.contains b.key = true := hm
    rw [if_pos hrow]
    rfl

theorem applyOne_of_spent (hr : r.admin = admin) (h : s.isDown = false)
    (hleft : s.writesLeft = some 0) (m : Mutation) : r.applyOne m s = .error lost s := by
  have hrefuse := acceptWrite_of_spent h hleft
  cases m with
  | register b =>
    rw [Reconciler.applyOne, hr]
    exact bind_eq_error.2 (.inl hrefuse)
  | deregister b =>
    rw [Reconciler.applyOne, hr]
    exact bind_eq_error.2 (.inl hrefuse)
  | setStatus b =>
    rw [Reconciler.applyOne, hr]
    exact bind_eq_error.2 (.inl hrefuse)

/-- A row is registered as a write of a pass is, or the store stays as it was. -/
theorem register_cases (b : Backend) (s : Store) :
    register b s = .ok () (s.perform [.register b]) ∨ ∃ e, register b s = .error e s := by
  cases h : s.isDown with
  | true =>
    right
    have hrefuse : acceptWrite s = .error refused s := by
      rw [acceptWrite, h]
      rfl
    exact ⟨refused, bind_eq_error.2 (.inl hrefuse)⟩
  | false =>
    by_cases hleft : s.writesLeft = some 0
    · exact .inr ⟨lost, bind_eq_error.2 (.inl (acceptWrite_of_spent h hleft))⟩
    · exact .inl (bind_of_ok (acceptWrite_of_up h hleft))

theorem reload_cases (s : Store) :
    reload s = .ok () (s.record .reload) ∨ reload s = .error refused s := by
  cases h : s.isDown with
  | true => exact .inr (bind_eq_error.2 (.inl (reachable_of_down h)))
  | false => exact .inl (reload_of_up h)

/-! ## Sequences of calls -/

theorem each_setVariable_of_up (hr : r.admin = admin) (h : s.isDown = false)
    (vars : List (String × String)) :
    each (fun v => r.admin.setVariable v.1 v.2) vars s = .ok () (s.assign vars) := by
  induction vars generalizing s with
  | nil => rfl
  | cons v vars ih =>
    have hfirst : r.admin.setVariable v.1 v.2 s = .ok () (s.assign [v]) := by
      rw [hr]
      exact setVariable_of_up h v
    rw [each, bind_of_ok hfirst]
    exact ih ((isDown_assign [v] s).trans h)

/-- All writes are taken, or as many as the store still takes. -/
theorem each_applyOne_of_up (hr : r.admin = admin) (h : s.isDown = false) {ms : List Mutation}
    (hms : ∀ m ∈ ms, m.Applies s.backends) :
    each r.applyOne ms s = .ok () (s.perform ms) ∨
    ∃ k < ms.length, s.writesLeft = some k ∧
      each r.applyOne ms s = .error lost (s.perform (ms.take k)) := by
  induction ms generalizing s with
  | nil => exact .inl (congrArg _ (perform_nil s).symm)
  | cons m ms ih =>
    by_cases hleft : s.writesLeft = some 0
    · refine .inr ⟨0, by simp, hleft, ?_⟩
      rw [List.take_zero, perform_nil]
      exact bind_eq_error.2 (.inl (applyOne_of_spent hr h hleft m))
    · have hfirst := applyOne_of_up hr h hleft (hms m (by simp))
      have hrest : ∀ m' ∈ ms, m'.Applies (s.perform [m]).backends := by
        intro m' hm'
        exact Mutation.applies_effect (hms m' (by simp [hm'])) m
      rw [each, bind_of_ok hfirst]
      rcases ih (s := s.perform [m]) h hrest with hall | ⟨k, hk, hspent, herror⟩
      · exact .inl (by rw [hall, perform_cons])
      · obtain ⟨n, hn, hnk⟩ := Option.map_eq_some_iff.1 hspent
        have hpos : n ≠ 0 := fun hzero => hleft (hzero ▸ hn)
        have hsucc : n = k + 1 := by
          rw [List.length_singleton] at hnk
          omega
        refine .inr ⟨k + 1, by simpa using hk, hsucc ▸ hn, ?_⟩
        rw [herror, List.take_succ_cons, perform_cons]

theorem apply_of_up (hr : r.admin = admin) (h : s.isDown = false) {ms : List Mutation}
    (hms : ∀ m ∈ ms, m.Applies s.backends) :
    r.apply ms s = .ok () ((s.assign r.monitorVariables).perform ms) ∨
    ∃ k < ms.length, s.writesLeft = some k ∧
      r.apply ms s = .error lost ((s.assign r.monitorVariables).perform (ms.take k)) := by
  have hup := (isDown_assign r.monitorVariables s).trans h
  rw [← backends_assign r.monitorVariables s] at hms
  rw [Reconciler.apply, bind_of_ok (each_setVariable_of_up hr h _),
    ← writesLeft_assign r.monitorVariables s]
  exact each_applyOne_of_up hr hup hms

/-- A commit on a store that is up ends with the one reload, after all of its writes or
after the ones that the store still took. -/
theorem commit_of_up (hr : r.admin = admin) (h : s.isDown = false) {ms : List Mutation}
    (hms : ∀ m ∈ ms, m.Applies s.backends) :
    r.commit ms s =
      .ok () (((s.assign r.monitorVariables).perform ms).record .reload) ∨
    ∃ k < ms.length, s.writesLeft = some k ∧ r.commit ms s =
      .error lost (((s.assign r.monitorVariables).perform (ms.take k)).record .reload) := by
  have hreload : ∀ done, r.admin.reload ((s.assign r.monitorVariables).perform done) =
      .ok () (((s.assign r.monitorVariables).perform done).record .reload) := by
    intro done
    rw [hr]
    exact reload_of_up ((isDown_assign r.monitorVariables s).trans h)
  rcases apply_of_up hr h hms with hall | ⟨k, hk, hleft, herror⟩
  · left
    rw [Reconciler.commit, hall]
    exact hreload ms
  · refine .inr ⟨k, hk, hleft, ?_⟩
    rw [Reconciler.commit, herror]
    simp only [hreload]

end Store

/-! ## Commits within a larger state -/

namespace Reconciler

variable {σ τ : Type}

theorem commit_within (part : τ → σ) (replace : σ → τ → τ)
    (hpart : ∀ s t, part (replace s t) = s) (hsame : ∀ t, replace (part t) t = t)
    (hover : ∀ s s' t, replace s (replace s' t) = replace s t) (nodes : NodeAccess τ)
    (nodes' : NodeAccess σ) (admin : AdminStore σ) (monitor : Option Credentials)
    (ms : List Mutation) :
    (Reconciler.mk nodes (admin.within part replace) monitor).commit ms =
      Action.within part replace ((Reconciler.mk nodes' admin monitor).commit ms) := by
  have hone : (Reconciler.mk nodes (admin.within part replace) monitor).applyOne =
      fun m => Action.within part replace ((Reconciler.mk nodes' admin monitor).applyOne m) := by
    funext m
    cases m <;> rfl
  have happly : (Reconciler.mk nodes (admin.within part replace) monitor).apply ms =
      Action.within part replace ((Reconciler.mk nodes' admin monitor).apply ms) := by
    unfold apply
    rw [within_bind hpart hover, within_each hpart hsame hover, hone,
      within_each hpart hsame hover]
    rfl
  funext t
  cases hs : (Reconciler.mk nodes' admin monitor).apply ms (part t) with
  | ok _ s =>
    have ht : (Reconciler.mk nodes (admin.within part replace) monitor).apply ms t =
        .ok () (replace s t) := by
      rw [happly]
      exact within_eq_ok.2 ⟨s, hs, rfl⟩
    rw [commit, ht, Action.within, commit, hs]
    change Action.within part replace admin.reload (replace s t) = _
    rw [Action.within, hpart]
    cases hreload : admin.reload s <;> simp only [hover, hreload]
  | error e s =>
    have ht : (Reconciler.mk nodes (admin.within part replace) monitor).apply ms t =
        .error e (replace s t) := by
      rw [happly]
      exact within_eq_error.2 ⟨s, hs, rfl⟩
    have hwithin : (admin.within part replace).reload (replace s t) =
        Action.within part replace admin.reload (replace s t) := rfl
    rw [commit, ht, Action.within, commit, hs]
    dsimp only
    rw [hwithin, Action.within, hpart]
    cases hreload : admin.reload s <;> simp only [hover]

end Reconciler

end SingleWriter
