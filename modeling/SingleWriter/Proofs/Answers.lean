import SingleWriter.Cluster
import SingleWriter.Proofs.Effects
import SingleWriter.Proofs.Tables

/-!
# Answers of the nodes

Reading a node may change the state behind it, such as a log, and still have an answer that
depends on nothing but the address. A cluster in memory answers so as long as no member runs
out of answers; a node that is read there is read as it stands in any case.
-/

set_option autoImplicit false

namespace SingleWriter

variable {ε δ σ α β : Type} {during : σ → Prop}

/-! ## Actions with one answer -/

namespace Action

def ended : Except ε α → σ → EStateM.Result ε σ α
  | .ok a, s => .ok a s
  | .error e, s => .error e s

def Gives (during : σ → Prop) (x : EStateM ε σ α) (answer : Except ε α) : Prop :=
  ∀ s, during s → ∃ t, during t ∧ x s = ended answer t

variable {x : EStateM ε σ α} {f : α → EStateM ε σ β}

theorem ended_inj {r r' : Except ε α} {s t : σ} (h : ended r s = ended r' t) : r = r' := by
  cases r <;> cases r' <;> cases h <;> rfl

theorem gives_pure (a : α) : Gives during (pure a : EStateM ε σ α) (.ok a) :=
  fun s hs => ⟨s, hs, rfl⟩

theorem gives_throw (e : ε) : Gives during (throw e : EStateM ε σ α) (.error e) :=
  fun s hs => ⟨s, hs, rfl⟩

theorem Gives.bind {a : α} {answer : Except ε β} (hx : Gives during x (.ok a))
    (hf : Gives during (f a) answer) : Gives during (x >>= f) answer := by
  intro s hs
  obtain ⟨t, ht, hxt⟩ := hx s hs
  obtain ⟨u, hu, hfu⟩ := hf t ht
  exact ⟨u, hu, (bind_of_ok hxt).trans hfu⟩

theorem Gives.bind_error {e : ε} (hx : Gives during x (.error e)) :
    Gives during (x >>= f) (.error e) := by
  intro s hs
  obtain ⟨t, ht, hxt⟩ := hx s hs
  exact ⟨t, ht, bind_eq_error.2 (.inl hxt)⟩

theorem Gives.mapError {d : ε → δ} {answer : Except ε α} (hx : Gives during x answer) :
    Gives during (mapError d x) (answer.mapError d) := by
  intro s hs
  obtain ⟨t, ht, hxt⟩ := hx s hs
  refine ⟨t, ht, ?_⟩
  rw [Action.mapError, hxt]
  cases answer <;> rfl

/-- There is no other answer. -/
theorem Gives.exists_iff {r r' : Except ε α} {s : σ} (hx : Gives during x r) (hs : during s) :
    (∃ t, x s = ended r' t) ↔ r' = r := by
  obtain ⟨u, -, hu⟩ := hx s hs
  constructor
  · rintro ⟨t, ht⟩
    exact ended_inj (ht.symm.trans hu)
  · rintro rfl
    exact ⟨u, hu⟩

end Action

open SingleWriter.Action

/-! ## Answers of the nodes -/

structure Replies where
  node : Addr → Except NodeError Node
  peers : Addr → Except NodeError (List Addr)
  /-- A node carries the address at which it was read. -/
  addr_node : ∀ {a n}, node a = .ok n → n.addr = a

structure NodeAccess.Answers (nodes : NodeAccess σ) (during : σ → Prop) (replies : Replies) :
    Prop where
  fetch : ∀ a, Gives during (nodes.fetch a) (replies.node a)
  peers : ∀ a, Gives during (nodes.peers a) (replies.peers a)

def Replies.IsRead (replies : Replies) (a : Addr) : Prop := ∃ n, replies.node a = .ok n

/-! ## Clusters in memory -/

namespace Cluster

def reached (c : Cluster) (a : Addr) : Except NodeError Member :=
  match c.get? a with
  | none => .error (.connect s!"no route to {a}")
  | some m =>
    if m.isUnreachable then .error (.connect s!"connection refused by {a}") else .ok m

theorem reach_eq (c : Cluster) (a : Addr) : reach a c = ended (c.reached a) c := by
  unfold reach reached
  cases Table.get? c a with
  | none => rfl
  | some m => cases hdown : m.isUnreachable <;> simp only [hdown] <;> rfl

theorem get?_of_reached {c : Cluster} {a : Addr} {m : Member} (h : c.reached a = .ok m) :
    Table.get? c a = some m := by
  unfold reached at h
  cases hm : Table.get? c a with
  | none =>
    rw [hm] at h
    cases h
  | some m' =>
    simp only [hm] at h
    split at h <;> cases h
    rfl

/-- What the members answer, as long as none of them runs out of answers. -/
def replies (c : Cluster) : Replies where
  node a := (c.reached a).map Member.node
  peers a := (c.reached a).map fun m => m.peers.getD c.addresses
  addr_node := by
    intro a n h
    cases hm : c.reached a with
    | error e =>
      rw [hm] at h
      cases h
    | ok m =>
      rw [hm] at h
      cases h
      have hkey : m.addr = a := Table.key_of_get? (get?_of_reached hm)
      exact hkey

theorem answers_access {c : Cluster} (h : ∀ m ∈ c.rows, m.answersLeft = none) :
    access.Answers (· = c) c.replies where
  fetch a := by
    rintro s rfl
    refine ⟨s, rfl, ?_⟩
    have hreach := reach_eq s a
    change fetch a s = ended ((s.reached a).map Member.node) s
    cases hm : s.reached a with
    | error e =>
      rw [hm] at hreach
      exact bind_eq_error.2 (.inl hreach)
    | ok m =>
      rw [hm] at hreach
      refine (bind_of_ok hreach).trans ?_
      simp only [h m (Table.mem_of_get? (get?_of_reached hm))]
      rfl
  peers a := by
    rintro s rfl
    refine ⟨s, rfl, ?_⟩
    have hreach := reach_eq s a
    change peers a s = ended ((s.reached a).map fun m => m.peers.getD s.addresses) s
    cases hm : s.reached a with
    | error e =>
      rw [hm] at hreach
      exact bind_eq_error.2 (.inl hreach)
    | ok m =>
      rw [hm] at hreach
      exact bind_of_ok hreach

theorem node_replies_change {f : Member → Member} (hnode : ∀ m, (f m).node = m.node)
    (hdown : ∀ m, (f m).isUnreachable = m.isUnreachable) (c : Cluster) (a : Addr) :
    (replies (Table.change c a f fun m => congrArg Node.addr (hnode m))).node =
      c.replies.node := by
  funext b
  change (reached _ b).map Member.node = (reached c b).map Member.node
  have hget := Table.get?_change c a f (fun m => congrArg Node.addr (hnode m)) b
  unfold reached
  by_cases hab : a = b
  · rw [hget, if_pos hab]
    cases Table.get? c b with
    | none => rfl
    | some m => cases hm : m.isUnreachable <;> simp [Except.map, hnode, hdown, hm]
  · rw [hget, if_neg hab]

/-- A node is read as it stands, and stands so afterwards, although an answer is used up. -/
theorem fetch_cases (a : Addr) (c : Cluster) :
    (∃ e, fetch a c = .error e c) ∨
      ∃ node c', fetch a c = .ok node c' ∧ c.replies.node a = .ok node ∧
        c'.replies.node = c.replies.node := by
  have hreach := reach_eq c a
  cases hm : c.reached a with
  | error e =>
    rw [hm] at hreach
    exact .inl ⟨e, bind_eq_error.2 (.inl hreach)⟩
  | ok m =>
    rw [hm] at hreach
    have hnode : c.replies.node a = .ok m.node := congrArg (Except.map Member.node) hm
    rw [fetch, bind_of_ok hreach]
    cases hleft : m.answersLeft with
    | none => exact .inr ⟨m.node, c, rfl, hnode, rfl⟩
    | some left =>
      cases left with
      | zero => exact .inl ⟨_, rfl⟩
      | succ n =>
        have hused := node_replies_change (f := fun m => { m with answersLeft := some n })
          (fun _ => rfl) (fun _ => rfl) c a
        exact .inr ⟨m.node, _, rfl, hnode, hused⟩

theorem keeps_fetch (a : Addr) : Keeps (fun c => c.replies.node) (fetch a) := by
  constructor
  · intro c d node h
    rcases fetch_cases a c with ⟨e, he⟩ | ⟨node', c', hok, -, hsame⟩
    · rw [he] at h
      cases h
    · rw [hok] at h
      cases h
      exact hsame
  · intro c d e h
    rcases fetch_cases a c with ⟨e', he⟩ | ⟨node', c', hok, -, -⟩
    · rw [he] at h
      cases h
      rfl
    · rw [hok] at h
      cases h

theorem node_replies_of_fetch {a : Addr} {c c' : Cluster} {node : Node}
    (h : fetch a c = .ok node c') : c.replies.node a = .ok node := by
  rcases fetch_cases a c with ⟨e, he⟩ | ⟨node', d, hok, hnode, -⟩
  · rw [he] at h
    cases h
  · rw [hok] at h
    cases h
    exact hnode

end Cluster

end SingleWriter
