import SingleWriter.Discovery
import SingleWriter.Proofs.Answers
import SingleWriter.Proofs.Plans

/-!
# Discoveries

Where what the nodes answer is a function of the address, so is what discovery comes to. A
seed that cannot be read or is not primary finds nothing, and neither does one of whose
peers some node cannot be read; the first such node in the order of the reads is the one
that is named. Otherwise the members are the seed and then, in the order of their first
places in the list of peers, the nodes on other hosts that are primary and share the state
of the seed. Of several seeds the first one that finds members decides.
-/

set_option autoImplicit false

namespace SingleWriter

open SingleWriter.Action

variable {σ : Type} {during : σ → Prop}

/-! ## Members -/

theorem Membership.addresses_insert (members : Membership) (n : Node) :
    addresses (Table.insert members n) =
      if n.addr ∈ members.addresses then members.addresses
      else members.addresses ++ [n.addr] := by
  have hkeys := Table.keys_insert members n
  simp only [Table.contains_iff] at hkeys
  exact hkeys

theorem Membership.tier?_of_perm {m n : Membership} (h : n.rows.Perm m.rows) :
    n.tier? = m.tier? := by
  simp only [Membership.tier?, h.any_eq]

namespace Replies

variable (replies : Replies)

def joins (id : Uuid) (a : Addr) : Bool :=
  match replies.node a with
  | .ok n => n.isPrimary && n.stateId = id
  | .error _ => false

def Shows (members : Membership) : Prop := ∀ m ∈ members.rows, replies.node m.addr = .ok m

/-- The addresses on other hosts that join a seed, each at its first place. -/
def joining (seed : Addr) (id : Uuid) (reported : List Addr) : List Addr :=
  (reported.filter fun a => a.host ≠ seed.host ∧ replies.joins id a).eraseDups

inductive Verdict (seed : Addr) : Except PassError Membership → Prop where
  | unread {e : NodeError} (hseed : replies.node seed = .error e) :
      Verdict seed (.error (.unknownState seed.text e.message))
  | nonPrimary {n : Node} (hseed : replies.node seed = .ok n) (hn : n.isPrimary = false) :
      Verdict seed (.error (.nonPrimary seed.text))
  | unlisted {n : Node} {e : NodeError} (hseed : replies.node seed = .ok n)
      (hn : n.isPrimary = true) (hpeers : replies.peers seed = .error e) :
      Verdict seed (.error (.unknownState seed.text e.message))
  | unreadPeer {n : Node} {before after : List Addr} {peer : Addr} {e : NodeError}
      (hseed : replies.node seed = .ok n) (hn : n.isPrimary = true)
      (hpeers : replies.peers seed = .ok (before ++ peer :: after))
      (hbefore : ∀ a ∈ before, a.host ≠ seed.host → replies.IsRead a)
      (hhost : peer.host ≠ seed.host) (hpeer : replies.node peer = .error e) :
      Verdict seed (.error (.unknownState peer.text e.message))
  | found {n : Node} {reported : List Addr} {members : Membership}
      (hseed : replies.node seed = .ok n) (hn : n.isPrimary = true)
      (hpeers : replies.peers seed = .ok reported)
      (hread : ∀ a ∈ reported, a.host ≠ seed.host → replies.IsRead a)
      (hmembers : members.addresses = seed :: replies.joining seed n.stateId reported)
      (hshows : replies.Shows members) :
      Verdict seed (.ok members)

variable {replies}

theorem Verdict.ne_clusterUnavailable {seed : Addr} {e : PassError}
    (h : replies.Verdict seed (.error e)) : e ≠ .clusterUnavailable := by
  cases h <;> simp

theorem joins_iff {id : Uuid} {a : Addr} :
    replies.joins id a = true ↔
      ∃ n, replies.node a = .ok n ∧ n.isPrimary = true ∧ n.stateId = id := by
  unfold joins
  cases replies.node a <;> simp

/-- A membership that shows the answers is known by its addresses. -/
theorem Shows.rows_eq {members : Membership} (h : replies.Shows members) :
    members.rows = members.addresses.filterMap fun a => (replies.node a).toOption := by
  have hrow : members.rows.filterMap (fun m => (replies.node m.addr).toOption) =
      members.rows.filterMap some := by
    apply List.filterMap_congr
    intro m hm
    rw [h m hm]
    rfl
  rw [Membership.addresses, List.filterMap_map]
  exact (hrow.trans (List.filterMap_some)).symm

theorem Shows.ext {members others : Membership} (h : replies.Shows members)
    (ho : replies.Shows others) (heq : others.addresses = members.addresses) :
    others = members := by
  apply Table.ext_rows
  rw [h.rows_eq, ho.rows_eq, heq]

theorem Shows.insert {members : Membership} (h : replies.Shows members) {a : Addr} {n : Node}
    (ha : replies.node a = .ok n) : replies.Shows (Table.insert members n) := by
  obtain rfl := replies.addr_node ha
  intro m hm
  have hrow := Table.get?_key hm
  rw [Table.get?_insert] at hrow
  split at hrow
  · cases hrow
    exact ha
  · exact h m (Table.mem_of_get? hrow)

end Replies

namespace Discovery

/-! ## Failures -/

section

variable (nodes : NodeAccess σ) {p : PassError → Prop}
  (hnode : ∀ (e : NodeError) (a : Addr), p (e.ofAddr a)) (hprimary : ∀ text, p (.nonPrimary text))

include hnode

theorem fails_fetch (a : Addr) : Fails p (fetch nodes a) := fails_mapError (hnode · a) _

theorem fails_peers (a : Addr) : Fails p (peers nodes a) := fails_mapError (hnode · a) _

theorem fails_gather (id : Uuid) (addrs : List Addr) (m : Membership) :
    Fails p (gather nodes id addrs m) := by
  induction addrs generalizing m with
  | nil => exact fails_pure m
  | cons a rest ih => exact (fails_fetch nodes hnode a).bind fun node => ih _

include hprimary

/-- Discovery fails by saying what is wrong with a node. -/
theorem fails_discover (seed : Addr) : Fails p (discover nodes seed) := by
  apply (fails_fetch nodes hnode seed).bind
  intro node
  have hrest := fun m => (fails_peers nodes hnode seed).bind fun reported =>
    fails_gather nodes hnode node.stateId (reported.filter (·.host ≠ seed.host)) m
  split
  · exact (fails_throw (hprimary _)).bind fun _ => hrest _
  · exact hrest _

/-- Where there is a seed, the failure that was given has no part. -/
theorem fails_firstUseful {last : PassError} {seeds : List Addr} (hlast : seeds = [] → p last) :
    Fails p (firstUseful nodes last seeds) := by
  induction seeds generalizing last with
  | nil => exact fails_throw (hlast rfl)
  | cons seed rest ih =>
    constructor
    intro s t e h
    unfold firstUseful at h
    cases hs : discover nodes seed s with
    | ok found u =>
      rw [hs] at h
      cases h
    | error d u =>
      rw [hs] at h
      exact (ih fun _ => (fails_discover nodes hnode hprimary seed).error hs).error h

end

/-! ## Discovery from one seed -/

variable {nodes : NodeAccess σ} {replies : Replies}

section

variable (h : nodes.Answers during replies)

include h

theorem gives_fetch {a : Addr} {n : Node} (ha : replies.node a = .ok n) :
    Gives during (fetch nodes a) (.ok n) := by
  have hfetch := (h.fetch a).mapError (d := (·.ofAddr a))
  rw [ha] at hfetch
  exact hfetch

theorem gives_fetch_error {a : Addr} {e : NodeError} (ha : replies.node a = .error e) :
    Gives during (fetch nodes a) (.error (.unknownState a.text e.message)) := by
  have hfetch := (h.fetch a).mapError (d := (·.ofAddr a))
  rw [ha] at hfetch
  exact hfetch

/-- Peers that are all read are added at the end, those that join and are new. -/
theorem gives_gather (id : Uuid) {addrs : List Addr} (hread : ∀ a ∈ addrs, replies.IsRead a)
    {found : Membership} (hfound : replies.Shows found) :
    ∃ members : Membership, Gives during (gather nodes id addrs found) (.ok members) ∧
      replies.Shows members ∧ members.addresses = found.addresses ++
        ((addrs.filter (replies.joins id)).filter (· ∉ found.addresses)).eraseDups := by
  induction addrs generalizing found with
  | nil => exact ⟨found, gives_pure found, hfound, by simp⟩
  | cons a rest ih =>
    obtain ⟨n, ha⟩ := hread a (by simp)
    have hrest : ∀ b ∈ rest, replies.IsRead b := fun b hb => hread b (by simp [hb])
    have hjoins : belongs id n = replies.joins id a := by
      rw [belongs, Replies.joins, ha, Bool.and_comm]
    cases hj : replies.joins id a with
    | false =>
      obtain ⟨members, hgather, hshows, haddrs⟩ := ih hrest hfound
      refine ⟨members, (gives_fetch h ha).bind ?_, hshows, by simpa [hj] using haddrs⟩
      rw [hjoins, hj]
      exact hgather
    | true =>
      obtain ⟨members, hgather, hshows, haddrs⟩ := ih hrest (hfound.insert ha)
      refine ⟨members, (gives_fetch h ha).bind ?_, hshows, ?_⟩
      · rw [hjoins, hj]
        exact hgather
      · rw [haddrs, Membership.addresses_insert, replies.addr_node ha]
        by_cases hmem : a ∈ found.addresses
        · simp [hj, hmem]
        · have hlater : ∀ l : List Addr, l.filter (· ∉ found.addresses ++ [a]) =
              (l.filter (· ∉ found.addresses)).filter (fun b => !b == a) := by
            intro l
            rw [List.filter_filter]
            apply List.filter_congr
            intro b _
            rw [Bool.eq_iff_iff]
            simp [and_comm]
          rw [if_neg hmem, hlater, List.filter_cons_of_pos hj,
            List.filter_cons_of_pos (by simpa using hmem), List.eraseDups_cons,
            List.append_assoc, List.singleton_append]

/-- The first peer that cannot be read ends it. -/
theorem gives_gather_error {id : Uuid} {before after : List Addr} {peer : Addr} {e : NodeError}
    (hread : ∀ a ∈ before, replies.IsRead a) (hpeer : replies.node peer = .error e)
    (found : Membership) :
    Gives during (gather nodes id (before ++ peer :: after) found)
      (.error (.unknownState peer.text e.message)) := by
  induction before generalizing found with
  | nil => exact (gives_fetch_error h hpeer).bind_error
  | cons a before ih =>
    obtain ⟨n, ha⟩ := hread a (by simp)
    exact (gives_fetch h ha).bind (ih (fun b hb => hread b (by simp [hb])) _)

/-- What follows once a primary seed has been read. -/
theorem gives_discover_of_primary {seed : Addr} {n : Node} (hseed : replies.node seed = .ok n)
    (hn : n.isPrimary = true) {answer : Except PassError Membership}
    (hrest : Gives during (do
      let reported ← peers nodes seed
      gather nodes n.stateId (reported.filter (·.host ≠ seed.host))
        (Table.insert Table.empty n)) answer) : Gives during (discover nodes seed) answer := by
  refine (gives_fetch h hseed).bind ?_
  rw [hn]
  exact hrest

theorem gives_peers {seed : Addr} {reported : List Addr}
    (hpeers : replies.peers seed = .ok reported) : Gives during (peers nodes seed) (.ok reported) := by
  have hlist := (h.peers seed).mapError (d := (·.ofAddr seed))
  rw [hpeers] at hlist
  exact hlist

/-- A seed whose peers can all be read finds the members that join it. -/
theorem exists_found {seed : Addr} {n : Node} {reported : List Addr}
    (hseed : replies.node seed = .ok n) (hn : n.isPrimary = true)
    (hpeers : replies.peers seed = .ok reported)
    (hread : ∀ a ∈ reported, a.host ≠ seed.host → replies.IsRead a) :
    ∃ members : Membership, Gives during (discover nodes seed) (.ok members) ∧
      replies.Shows members ∧
      members.addresses = seed :: replies.joining seed n.stateId reported := by
  have hempty : replies.Shows (Table.empty : Membership) := by
    intro m hm
    cases hm
  have hfirst : Membership.addresses (Table.insert Table.empty n) = [seed] := by
    rw [Membership.addresses_insert, replies.addr_node hseed]
    rfl
  have hothers : ∀ a ∈ reported.filter (·.host ≠ seed.host), replies.IsRead a := by
    intro a ha
    obtain ⟨hmem, hhost⟩ := List.mem_filter.1 ha
    exact hread a hmem (by simpa using hhost)
  obtain ⟨members, hgather, hshows, haddrs⟩ :=
    gives_gather h n.stateId hothers (hempty.insert hseed)
  refine ⟨members, ?_, hshows, ?_⟩
  · exact gives_discover_of_primary h hseed hn ((gives_peers h hpeers).bind hgather)
  · -- a peer on another host is not the seed
    have hnew : ((reported.filter (·.host ≠ seed.host)).filter
        (replies.joins n.stateId)).filter (· ∉ [seed]) =
          reported.filter fun a => a.host ≠ seed.host ∧ replies.joins n.stateId a := by
      rw [List.filter_filter, List.filter_filter]
      apply List.filter_congr
      intro a _
      rw [Bool.eq_iff_iff]
      simp only [List.mem_singleton, Bool.and_eq_true, decide_eq_true_eq]
      constructor
      · rintro ⟨⟨-, hj⟩, hhost⟩
        exact ⟨hhost, hj⟩
      · rintro ⟨hhost, hj⟩
        exact ⟨⟨fun heq => hhost (heq ▸ rfl), hj⟩, hhost⟩
    rw [haddrs, hfirst, hnew]
    rfl

theorem gives_discover {seed : Addr} {answer : Except PassError Membership}
    (hv : replies.Verdict seed answer) : Gives during (discover nodes seed) answer := by
  cases hv with
  | unread hseed => exact (gives_fetch_error h hseed).bind_error
  | nonPrimary hseed hn =>
    refine (gives_fetch h hseed).bind ?_
    rw [hn]
    exact (gives_throw _).bind_error
  | unlisted hseed hn hpeers =>
    refine gives_discover_of_primary h hseed hn (Gives.bind_error ?_)
    have hlist := (h.peers seed).mapError (d := (·.ofAddr seed))
    rw [hpeers] at hlist
    exact hlist
  | unreadPeer hseed hn hpeers hbefore hhost hpeer =>
    refine gives_discover_of_primary h hseed hn ((gives_peers h hpeers).bind ?_)
    rw [List.filter_append, List.filter_cons_of_pos (by simpa using hhost)]
    refine gives_gather_error h ?_ hpeer _
    intro a ha
    obtain ⟨hmem, hother⟩ := List.mem_filter.1 ha
    exact hbefore a hmem (by simpa using hother)
  | found hseed hn hpeers hread hmembers hshows =>
    obtain ⟨members, hgives, hshows', haddrs⟩ := exists_found h hseed hn hpeers hread
    rw [hshows'.ext hshows (hmembers.trans haddrs.symm)]
    exact hgives

/-- Every seed comes to something. -/
theorem exists_verdict (seed : Addr) : ∃ answer, replies.Verdict seed answer := by
  cases hseed : replies.node seed with
  | error e => exact ⟨_, .unread hseed⟩
  | ok n =>
    cases hn : n.isPrimary with
    | false => exact ⟨_, .nonPrimary hseed hn⟩
    | true =>
      cases hpeers : replies.peers seed with
      | error e => exact ⟨_, .unlisted hseed hn hpeers⟩
      | ok reported =>
        cases hfirst : reported.find? fun a =>
            decide (a.host ≠ seed.host) && (replies.node a).toOption.isNone with
        | none =>
          have hread : ∀ a ∈ reported, a.host ≠ seed.host → replies.IsRead a := by
            intro a ha hhost
            have hnot := List.find?_eq_none.1 hfirst a ha
            cases hnode : replies.node a with
            | ok m => exact ⟨m, hnode⟩
            | error e => simp [hhost, hnode, Except.toOption] at hnot
          obtain ⟨members, -, hshows, haddrs⟩ := exists_found h hseed hn hpeers hread
          exact ⟨_, .found hseed hn hpeers hread haddrs hshows⟩
        | some peer =>
          obtain ⟨hpeer, before, after, rfl, hbefore⟩ := List.find?_eq_some_iff_append.1 hfirst
          have hread : ∀ a ∈ before, a.host ≠ seed.host → replies.IsRead a := by
            intro a ha hhost
            have hnot := hbefore a ha
            cases hnode : replies.node a with
            | ok m => exact ⟨m, hnode⟩
            | error e => simp [hhost, hnode, Except.toOption] at hnot
          rw [Bool.and_eq_true, decide_eq_true_eq] at hpeer
          cases hnode : replies.node peer with
          | ok m => simp [hnode, Except.toOption] at hpeer
          | error e => exact ⟨_, .unreadPeer hseed hn hpeers hread hpeer.1 hnode⟩

/-! ## Several seeds -/

theorem gives_firstUseful_found {before after : List Addr} {seed : Addr} {members : Membership}
    (hbefore : ∀ a ∈ before, ∃ e, replies.Verdict a (.error e))
    (hseed : replies.Verdict seed (.ok members)) (last : PassError) :
    Gives during (firstUseful nodes last (before ++ seed :: after)) (.ok members) := by
  intro s hs
  induction before generalizing last s with
  | nil =>
    obtain ⟨t, ht, hfound⟩ := gives_discover h hseed s hs
    exact ⟨t, ht, by simp only [List.nil_append, firstUseful, hfound, ended]⟩
  | cons a before ih =>
    obtain ⟨e, ha⟩ := hbefore a (by simp)
    obtain ⟨t, ht, herror⟩ := gives_discover h ha s hs
    obtain ⟨u, hu, hrest⟩ := ih (fun b hb => hbefore b (by simp [hb])) e t ht
    refine ⟨u, hu, ?_⟩
    simp only [List.cons_append, firstUseful, herror, ended]
    exact hrest

theorem gives_firstUseful_error {before : List Addr} {seed : Addr} {e : PassError}
    (hbefore : ∀ a ∈ before, ∃ e, replies.Verdict a (.error e))
    (hseed : replies.Verdict seed (.error e)) (last : PassError) :
    Gives during (firstUseful nodes last (before ++ [seed])) (.error e) := by
  intro s hs
  induction before generalizing last s with
  | nil =>
    obtain ⟨t, ht, herror⟩ := gives_discover h hseed s hs
    exact ⟨t, ht, by simp only [List.nil_append, firstUseful, herror, ended]; rfl⟩
  | cons a before ih =>
    obtain ⟨d, ha⟩ := hbefore a (by simp)
    obtain ⟨t, ht, herror⟩ := gives_discover h ha s hs
    obtain ⟨u, hu, hrest⟩ := ih (fun b hb => hbefore b (by simp [hb])) d t ht
    refine ⟨u, hu, ?_⟩
    simp only [List.cons_append, firstUseful, herror, ended]
    exact hrest

/-- Either some seed is the first to find members, or every seed comes to an error. -/
theorem first_found_or_none (seeds : List Addr) :
    (∃ before seed after members, seeds = before ++ seed :: after ∧
      (∀ a ∈ before, ∃ e, replies.Verdict a (.error e)) ∧ replies.Verdict seed (.ok members)) ∨
    ∀ a ∈ seeds, ∃ e, replies.Verdict a (.error e) := by
  induction seeds with
  | nil => exact .inr (by simp)
  | cons a rest ih =>
    obtain ⟨answer, ha⟩ := exists_verdict h a
    cases answer with
    | ok members => exact .inl ⟨[], a, rest, members, rfl, by simp, ha⟩
    | error e =>
      rcases ih with ⟨before, seed, after, members, rfl, hbefore, hseed⟩ | hall
      · refine .inl ⟨a :: before, seed, after, members, rfl, ?_, hseed⟩
        rintro b (_ | ⟨_, hb⟩)
        · exact ⟨e, ha⟩
        · exact hbefore b hb
      · right
        rintro b (_ | ⟨_, hb⟩)
        · exact ⟨e, ha⟩
        · exact hall b hb

theorem discoverAny_unavailable_iff {s : σ} (hs : during s) (seeds : List Addr) :
    (∃ t, discoverAny nodes seeds s = .error .clusterUnavailable t) ↔ seeds = [] := by
  constructor
  · rintro ⟨t, hnone⟩
    rcases first_found_or_none h seeds with
      ⟨before, seed, after, members, rfl, hbefore, hseed⟩ | hall
    · obtain ⟨u, -, hfound⟩ := gives_firstUseful_found h hbefore hseed .clusterUnavailable s hs
      cases hnone.symm.trans hfound
    · rcases seeds.eq_nil_or_concat' with rfl | ⟨before, seed, rfl⟩
      · rfl
      · obtain ⟨e, hseed⟩ := hall seed (by simp)
        have hbefore : ∀ a ∈ before, ∃ e, replies.Verdict a (.error e) :=
          fun a ha => hall a (by simp [ha])
        obtain ⟨u, -, herror⟩ := gives_firstUseful_error h hbefore hseed .clusterUnavailable s hs
        cases hnone.symm.trans herror
        exact absurd rfl hseed.ne_clusterUnavailable
  · rintro rfl
    exact ⟨s, rfl⟩

/-- Discovery from a seed comes to its verdict and to nothing else, with no address twice
among the members. From several seeds it comes to what the first one finds that finds
members; where none does, it comes to the error of the last; and only where there is no seed
is the cluster unavailable. -/
theorem discover_accepts_seed_cluster {s : σ} (hs : during s) :
    (∀ seed answer,
      (∃ t, discover nodes seed s = ended answer t) ↔ replies.Verdict seed answer) ∧
    (∀ seed members t, discover nodes seed s = .ok members t → members.addresses.Nodup) ∧
    (∀ before seed after members, (∀ a ∈ before, ∃ e, replies.Verdict a (.error e)) →
      replies.Verdict seed (.ok members) →
        ∃ t, discoverAny nodes (before ++ seed :: after) s = .ok members t) ∧
    (∀ before seed e, (∀ a ∈ before, ∃ e, replies.Verdict a (.error e)) →
      replies.Verdict seed (.error e) →
        ∃ t, discoverAny nodes (before ++ [seed]) s = .error e t) ∧
    ∀ seeds, (∃ t, discoverAny nodes seeds s = .error .clusterUnavailable t) ↔ seeds = [] := by
  refine ⟨?_, fun _ members _ _ => members.nodup, ?_, ?_, discoverAny_unavailable_iff h hs⟩
  · intro seed answer
    obtain ⟨verdict, hv⟩ := exists_verdict h seed
    rw [(gives_discover h hv).exists_iff hs]
    constructor
    · rintro rfl
      exact hv
    · intro ha
      exact ((gives_discover h hv).exists_iff hs).1
        (((gives_discover h ha).exists_iff hs).2 rfl)
  · intro before seed after members hbefore hseed
    obtain ⟨t, -, ht⟩ := gives_firstUseful_found h hbefore hseed .clusterUnavailable s hs
    exact ⟨t, ht⟩
  · intro before seed e hbefore hseed
    obtain ⟨t, -, ht⟩ := gives_firstUseful_error h hbefore hseed .clusterUnavailable s hs
    exact ⟨t, ht⟩

end

def mixed : Cluster :=
  (((Cluster.ofNodes [PlanContext.syncedNode "db1", PlanContext.syncedNode "db2",
    { PlanContext.syncedNode "db3" with stateId := ⟨1⟩ },
    { PlanContext.syncedNode "db4" with isPrimary := false },
    PlanContext.syncedNode "db5", PlanContext.syncedNode "db6"]).setPeers ⟨"db1", 3306⟩
      [⟨"db3", 3306⟩, ⟨"db2", 3306⟩, ⟨"db1", 3307⟩, ⟨"db4", 3306⟩, ⟨"db2", 3306⟩]).setPeers
        ⟨"db5", 3306⟩ [⟨"db1", 3306⟩, ⟨"db6", 3306⟩]).setUnreachable ⟨"db6", 3306⟩ true

theorem discover_accepts_seed_cluster_of_mixed :
    (∀ m ∈ mixed.rows, m.answersLeft = none) ∧
    mixed.replies.Verdict ⟨"db5", 3306⟩
      (.error (.unknownState "db6:3306" "connection failed: connection refused by db6:3306")) ∧
    ∃ members : Membership, members.addresses = [⟨"db1", 3306⟩, ⟨"db2", 3306⟩] ∧
      mixed.replies.Verdict ⟨"db1", 3306⟩ (.ok members) ∧
      ∃ t, discoverAny Cluster.access [⟨"db5", 3306⟩, ⟨"db1", 3306⟩] mixed = .ok members t := by
  have hlimit : ∀ m ∈ mixed.rows, m.answersLeft = none := by decide +kernel
  obtain ⟨hverdict, -, hany, -, -⟩ :=
    discover_accepts_seed_cluster (Cluster.answers_access hlimit) (s := mixed) rfl
  have hfound : (result? (discover Cluster.access ⟨"db1", 3306⟩) mixed).map
      Membership.addresses = some [⟨"db1", 3306⟩, ⟨"db2", 3306⟩] := by decide +kernel
  have herror : discover Cluster.access ⟨"db5", 3306⟩ mixed = .error (.unknownState "db6:3306"
      "connection failed: connection refused by db6:3306") mixed := by rfl
  obtain ⟨members, hresult, haddrs⟩ := Option.map_eq_some_iff.1 hfound
  obtain ⟨t, ht⟩ := exists_of_result? hresult
  have hfirst := (hverdict ⟨"db5", 3306⟩ (.error _)).1 ⟨mixed, herror⟩
  have hsecond := (hverdict ⟨"db1", 3306⟩ (.ok members)).1 ⟨t, ht⟩
  exact ⟨hlimit, hfirst, members, haddrs, hsecond,
    hany [⟨"db5", 3306⟩] ⟨"db1", 3306⟩ [] members (by simpa using ⟨_, hfirst⟩) hsecond⟩

end Discovery

end SingleWriter
