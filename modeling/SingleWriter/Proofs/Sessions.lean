import SingleWriter.Sql.Session
import SingleWriter.Proofs.Effects
import SingleWriter.Proofs.Tables

/-!
# One session for one operation

An operation has an agenda: the requests it makes, in order. Kept in one session, the agenda
is followed up to its end or up to the first request that fails. Only a failed item with a
fallback is tried again, in the other way and once, and rows may end the session early. The
log shows the session whole, opened once, closed once, and the statements between.
-/

set_option autoImplicit false

namespace SingleWriter

namespace Action

variable {ε δ σ α β : Type}

def ending (x : EStateM ε σ α) (s : σ) : Except ε α :=
  match x s with
  | .ok a _ => .ok a
  | .error e _ => .error e

def failure? (x : EStateM ε σ α) (s : σ) : Option ε :=
  match x s with
  | .ok _ _ => none
  | .error e _ => some e

theorem failure?_of_ok {x : EStateM ε σ α} {s t : σ} {a : α} (h : x s = .ok a t) :
    failure? x s = none := by
  rw [failure?, h]

theorem failure?_of_error {x : EStateM ε σ α} {s t : σ} {e : ε} (h : x s = .error e t) :
    failure? x s = some e := by
  rw [failure?, h]

theorem failure?_eq_some {x : EStateM ε σ α} {s : σ} {e : ε} :
    failure? x s = some e ↔ ∃ t, x s = .error e t := by
  unfold failure?
  cases x s <;> simp

theorem bind_of_error {x : EStateM ε σ α} {f : α → EStateM ε σ β} {s u : σ} {e : ε}
    (h : x s = .error e u) : (x >>= f) s = .error e u := bind_eq_error.2 (.inl h)

theorem stateAfter_bind_of_keeps {x : EStateM ε σ α} {f : α → EStateM ε σ β}
    (hf : ∀ a, Keeps id (f a)) (s : σ) : stateAfter (x >>= f) s = stateAfter x s :=
  view_stateAfter_bind hf s

theorem map_of_ok {x : EStateM ε σ α} {s t : σ} {a : α} (h : x s = .ok a t) (f : α → β) :
    (f <$> x) s = .ok (f a) t := by
  change EStateM.map f x s = _
  rw [EStateM.map, h]

theorem map_of_error {x : EStateM ε σ α} {s t : σ} {e : ε} (h : x s = .error e t) (f : α → β) :
    (f <$> x) s = .error e t := by
  change EStateM.map f x s = _
  rw [EStateM.map, h]

theorem failure?_map (f : α → β) (x : EStateM ε σ α) (s : σ) :
    failure? (f <$> x) s = failure? x s := by
  cases h : x s with
  | ok a t => rw [failure?_of_ok (map_of_ok h f), failure?_of_ok h]
  | error e t => rw [failure?_of_error (map_of_error h f), failure?_of_error h]

theorem stateAfter_map (f : α → β) (x : EStateM ε σ α) (s : σ) :
    stateAfter (f <$> x) s = stateAfter x s := by
  cases h : x s with
  | ok a t => rw [stateAfter_of_ok (map_of_ok h f), stateAfter_of_ok h]
  | error e t => rw [stateAfter_of_error (map_of_error h f), stateAfter_of_error h]

end Action

namespace Sql

/-! ## Agendas -/

inductive Request where
  | query (statement : String)
  | execute (statement : String)
  deriving DecidableEq

def Request.text : Request → String
  | .query statement => statement
  | .execute statement => statement

structure Exchange where
  request : Request
  outcome : Except SessionError (List Row)

structure Item (ε : Type) where
  request : Request
  /-- What to ask when the statement has failed; a timeout is final. -/
  fallback : Option Request := none
  /-- Rows that end the operation at once, and its failure then. -/
  refusal : List Row → Option ε := fun _ => none

def Item.query {ε : Type} (statement : String) : Item ε := { request := .query statement }

def Item.execute {ε : Type} (statement : String) : Item ε := { request := .execute statement }

def Item.replacement {ε : Type} (i : Item ε) : SessionError → Option Request
  | .statement _ => i.fallback
  | _ => none

/-- The exchanges keep to the agenda: all of it, or up to the failure that is given. -/
inductive Kept {ε : Type} (explain : SessionError → ε) :
    List (Item ε) → List Exchange → Option ε → Prop where
  | done : Kept explain [] [] none
  | answered {i : Item ε} {is : List (Item ε)} {xs : List Exchange} {failure : Option ε}
      {rows : List Row} (h : i.refusal rows = none) (rest : Kept explain is xs failure) :
      Kept explain (i :: is) (⟨i.request, .ok rows⟩ :: xs) failure
  | refused {i : Item ε} {is : List (Item ε)} {rows : List Row} {e : ε}
      (h : i.refusal rows = some e) :
      Kept explain (i :: is) [⟨i.request, .ok rows⟩] (some e)
  | failed {i : Item ε} {is : List (Item ε)} {e : SessionError} (h : i.replacement e = none) :
      Kept explain (i :: is) [⟨i.request, .error e⟩] (some (explain e))
  | replaced {i : Item ε} {is : List (Item ε)} {xs : List Exchange} {failure : Option ε}
      {e : SessionError} {q : Request} {rows : List Row} (h : i.replacement e = some q)
      (rest : Kept explain is xs failure) :
      Kept explain (i :: is) (⟨i.request, .error e⟩ :: ⟨q, .ok rows⟩ :: xs) failure
  | replacementFailed {i : Item ε} {is : List (Item ε)} {e e' : SessionError} {q : Request}
      (h : i.replacement e = some q) :
      Kept explain (i :: is) [⟨i.request, .error e⟩, ⟨q, .error e'⟩] (some (explain e'))

namespace Kept

variable {ε : Type} {explain : SessionError → ε} {agenda : List (Item ε)} {xs : List Exchange}
  {failure : Option ε}

/-- After a failed request nothing is sent but the fallback of its item. -/
theorem next_of_failed (h : Kept explain agenda xs failure) {before after : List Exchange}
    {x y : Exchange} (hxs : xs = before ++ x :: y :: after) {e : SessionError}
    (hx : x.outcome = .error e) :
    ∃ i ∈ agenda, x.request = i.request ∧ i.replacement e = some y.request := by
  -- Only a failed request that was replaced has anything after it.
  induction h generalizing before with
  | done => simp at hxs
  | answered _ _ ih =>
    cases before with
    | nil =>
      cases hxs
      cases hx
    | cons z before =>
      obtain ⟨j, hj, hreq⟩ := ih (List.cons.inj hxs).2
      exact ⟨j, by simp [hj], hreq⟩
  | refused => exact absurd (congrArg List.length hxs) (by simp; omega)
  | failed => exact absurd (congrArg List.length hxs) (by simp; omega)
  | @replaced i is xs failure e' q rows hq _ ih =>
    match before, hxs with
    | [], hxs =>
      cases hxs
      cases hx
      exact ⟨i, by simp, rfl, hq⟩
    | [z], hxs =>
      cases hxs
      cases hx
    | z :: z' :: before, hxs =>
      obtain ⟨j, hj, hreq⟩ := ih (List.cons.inj (List.cons.inj hxs).2).2
      exact ⟨j, by simp [hj], hreq⟩
  | @replacementFailed i is e' e'' q hq =>
    match before, hxs with
    | [], hxs =>
      cases hxs
      cases hx
      exact ⟨i, by simp, rfl, hq⟩
    | z :: before, hxs => exact absurd (congrArg List.length hxs) (by simp; omega)

/-- When the agenda is kept to its end, each item was answered, itself or by its fallback. -/
theorem answered_of_end (h : Kept explain agenda xs none) : ∀ i ∈ agenda, ∃ x ∈ xs,
    (x.request = i.request ∨ ∃ e, i.replacement e = some x.request) ∧
    ∃ rows, x.outcome = .ok rows := by
  generalize hfailure : (none : Option ε) = failure at h
  induction h with
  | done => simp
  | @answered i is xs failure rows _ _ ih =>
    rw [List.forall_mem_cons]
    refine ⟨⟨_, List.mem_cons_self, .inl rfl, rows, rfl⟩, ?_⟩
    intro j hj
    obtain ⟨x, hx, hreq⟩ := ih hfailure j hj
    exact ⟨x, List.mem_cons_of_mem _ hx, hreq⟩
  | refused => cases hfailure
  | failed => cases hfailure
  | @replaced i is xs failure e q rows hq _ ih =>
    rw [List.forall_mem_cons]
    refine ⟨⟨⟨q, .ok rows⟩, by simp, .inr ⟨e, hq⟩, rows, rfl⟩, ?_⟩
    intro j hj
    obtain ⟨x, hx, hreq⟩ := ih hfailure j hj
    exact ⟨x, by simp [hx], hreq⟩
  | replacementFailed => cases hfailure

end Kept

/-! ## What an action asks -/

namespace Client

variable (c : Client)

def perform : Request → EStateM SessionError Network (List Row)
  | .query statement => c.query statement
  | .execute statement => (fun _ => []) <$> c.execute statement

def exchanges : Network → List Request → List Exchange
  | _, [] => []
  | n, q :: qs =>
    ⟨q, Action.ending (c.perform q) n⟩ :: exchanges (Action.stateAfter (c.perform q) n) qs

def networkAfter (n : Network) (qs : List Request) : Network :=
  qs.foldl (fun n q => Action.stateAfter (c.perform q) n) n

variable {c}

variable (c)

def FollowsAt {ε α : Type} (explain : SessionError → ε) (agenda : List (Item ε))
    (x : EStateM ε Network α) (n : Network) : Prop :=
  ∃ qs, Kept explain agenda (c.exchanges n qs) (Action.failure? x n) ∧
    Action.stateAfter x n = c.networkAfter n qs

def Follows {ε α : Type} (explain : SessionError → ε) (agenda : List (Item ε))
    (x : EStateM ε Network α) : Prop :=
  ∀ n, c.FollowsAt explain agenda x n

section

variable {c} {ε α β : Type} {explain : SessionError → ε} {agenda : List (Item ε)}
  {i : Item ε} {x y : EStateM ε Network α} {n m k : Network}

theorem Follows.map (hx : c.Follows explain agenda x) (g : α → β) :
    c.Follows explain agenda (g <$> x) := by
  intro n
  rw [FollowsAt, Action.failure?_map, Action.stateAfter_map]
  exact hx n

end

/-! ## The log of a session -/

variable {c}

def IsAttempt (c : Client) (events : List Event) : Prop :=
  events = [] ∨ ∃ server, events = [.refused server c.credentials.username] ∨
    events = [.ignored server]

/-- Without a connection the operation asks nothing and fails. Otherwise it opens one session,
asks for the items of the agenda, and closes the session. It fails when the agenda does, and
after the whole agenda only with an objection to what was answered. -/
structure InOneSession {ε α : Type} (c : Client) (explain : SessionError → ε)
    (agenda : List (Item ε)) (objection : ε → Prop) (x : EStateM ε Network α) : Prop where
  unconnected : ∀ {n m : Network} {e : SessionError}, c.connect n = .error e m →
    x n = .error (explain e) m ∧ ∃ attempt, c.IsAttempt attempt ∧ m.log = n.log ++ attempt
  connected : ∀ {n m : Network}, c.connect n = .ok () m → ∃ server qs failure,
    Kept explain agenda (c.exchanges m qs) failure ∧
    (Action.stateAfter x n).log = n.log ++
      .opened server c.credentials.username :: (qs.map (fun q => .sent q.text) ++ [.closed]) ∧
    (∀ e, failure = some e → Action.failure? x n = some e) ∧
    (failure = none → ∀ e, Action.failure? x n = some e → objection e)

variable {ε α β : Type} {explain : SessionError → ε} {agenda : List (Item ε)}
  {objection : ε → Prop}

/-- What is made of the answers afterwards leaves the network alone. -/
theorem InOneSession.bind {x : EStateM ε Network α}
    (hx : c.InOneSession explain agenda objection x) {f : α → EStateM ε Network β}
    (hkeeps : ∀ a, Action.Keeps id (f a)) (hfails : ∀ a, Action.Fails objection (f a)) :
    c.InOneSession explain agenda objection (x >>= f) where
  unconnected hconnect :=
    ⟨Action.bind_of_error (hx.unconnected hconnect).1, (hx.unconnected hconnect).2⟩
  connected := by
    intro n m hconnect
    obtain ⟨server, qs, failure, hkept, hlog, hfailed, hended⟩ := hx.connected hconnect
    refine ⟨server, qs, failure, hkept, ?_, ?_, ?_⟩
    · rw [← hlog]
      exact congrArg Network.log (Action.stateAfter_bind_of_keeps hkeeps n)
    · intro e he
      obtain ⟨t, ht⟩ := Action.failure?_eq_some.1 (hfailed e he)
      exact Action.failure?_of_error (Action.bind_of_error ht)
    · intro hnone e he
      obtain ⟨t, ht⟩ := Action.failure?_eq_some.1 he
      rcases Action.bind_eq_error.1 ht with hs | ⟨a, u, -, hu⟩
      · exact hended hnone e (Action.failure?_of_error hs)
      · exact (hfails a).error hu

/-- Success needs the session and an answer to every item, its own or that of its fallback. -/
theorem InOneSession.answered_of_ok {x : EStateM ε Network α} {n m : Network} {a : α}
    (hx : c.InOneSession explain agenda objection x) (h : x n = .ok a m) :
    ∃ k qs, c.connect n = .ok () k ∧ ∀ i ∈ agenda, ∃ y ∈ c.exchanges k qs,
      (y.request = i.request ∨ ∃ e, i.replacement e = some y.request) ∧
      ∃ rows, y.outcome = .ok rows := by
  cases hconnect : c.connect n with
  | error e k =>
    have hfails := (hx.unconnected hconnect).1
    rw [h] at hfails
    cases hfails
  | ok u k =>
    obtain ⟨server, qs, failure, hkept, -, hfailed, -⟩ := hx.connected hconnect
    cases failure with
    | none => exact ⟨k, qs, rfl, hkept.answered_of_end⟩
    | some e =>
      have hfails := hfailed e rfl
      rw [Action.failure?_of_ok h] at hfails
      cases hfails

end Client

end Sql

end SingleWriter
