import SingleWriter.Proofs.Discoveries

/-!
# The choice of a seed

A seed is read first and its state is the one that the others are compared with, but when it
lists itself with every other member, on one address to a host, nothing of that is left in
the members that it finds: they are the listed nodes that are primary and have one state. Any
of them that reports the same list finds the same members, since it has that state as well,
and all that it has to read was read before.
-/

set_option autoImplicit false

namespace SingleWriter

open SingleWriter.Action

variable {σ : Type} {during : σ → Prop}

namespace Replies

variable {replies : Replies} {reported : List Addr} {seed : Addr} {id : Uuid}

/-- Memberships that show the same answers and have the same addresses have the same nodes. -/
theorem Shows.perm {members others : Membership} (h : replies.Shows members)
    (ho : replies.Shows others) (hmem : ∀ a, a ∈ others.addresses ↔ a ∈ members.addresses) :
    others.rows.Perm members.rows := by
  have haddrs : others.addresses.Perm members.addresses :=
    (List.perm_ext_iff_of_nodup others.nodup members.nodup).2 hmem
  rw [h.rows_eq, ho.rows_eq]
  exact haddrs.filterMap _

/-- A seed that lists itself and joins itself stands among the listed nodes like any other. -/
theorem mem_seed_joining_iff (hhosts : (reported.map Addr.host).Nodup) (hseed : seed ∈ reported)
    (hjoins : replies.joins id seed = true) {a : Addr} :
    a ∈ seed :: replies.joining seed id reported ↔ a ∈ reported ∧ replies.joins id a = true := by
  rw [List.mem_cons, joining, List.mem_eraseDups, List.mem_filter, decide_eq_true_eq]
  constructor
  · rintro (rfl | ⟨ha, -, hj⟩)
    · exact ⟨hseed, hjoins⟩
    · exact ⟨ha, hj⟩
  · rintro ⟨ha, hj⟩
    by_cases hhost : a.host = seed.host
    · exact .inl (List.inj_on_of_nodup_map hhosts ha hseed hhost)
    · exact .inr ⟨ha, hhost, hj⟩

end Replies

namespace Discovery

variable {nodes : NodeAccess σ} {replies : Replies} {reported : List Addr} {seed : Addr}

/-- When a seed and a member that it finds report the same list of addresses on distinct
hosts, with the seed among them, discovery from that member succeeds, and it finds the same
nodes and the same tier. -/
theorem same_members_from_any_member (h : nodes.Answers during replies) {s : σ} (hs : during s)
    (hhosts : (reported.map Addr.host).Nodup) (hseed : seed ∈ reported)
    (hpeers : replies.peers seed = .ok reported) {members : Membership} {t : σ}
    (hfound : discover nodes seed s = .ok members t) {b : Node} (hb : b ∈ members.rows)
    (hpeers' : replies.peers b.addr = .ok reported) :
    ∃ others : Membership,
      (∀ u, during u → ∃ v, discover nodes b.addr u = .ok others v) ∧
      others.rows.Perm members.rows ∧ others.tier? = members.tier? := by
  obtain ⟨verdict, hv⟩ := exists_verdict h seed
  obtain rfl : .ok members = verdict := ((gives_discover h hv).exists_iff hs).1 ⟨t, hfound⟩
  cases hv with
  | @found n listed _ hnode hprimary hlist hread haddrs hshows =>
    obtain rfl : reported = listed := by
      rw [hpeers] at hlist
      cases hlist
      rfl
    have hjoins : replies.joins n.stateId seed = true :=
      Replies.joins_iff.2 ⟨n, hnode, hprimary, rfl⟩
    have hmembers : ∀ a, a ∈ members.addresses ↔
        a ∈ reported ∧ replies.joins n.stateId a = true := by
      intro a
      rw [haddrs, Replies.mem_seed_joining_iff hhosts hseed hjoins]
    -- what the member has to read is what the seed has read, and the seed itself
    have hall : ∀ a ∈ reported, replies.IsRead a := by
      intro a ha
      by_cases hhost : a.host = seed.host
      · exact ⟨n, List.inj_on_of_nodup_map hhosts ha hseed hhost ▸ hnode⟩
      · exact hread a ha hhost
    have hbnode := hshows b hb
    obtain ⟨hblisted, hbjoins⟩ := (hmembers b.addr).1 (List.mem_map_of_mem hb)
    obtain ⟨b', hb', hbprimary, hbstate⟩ := Replies.joins_iff.1 hbjoins
    obtain rfl : b = b' := by
      rw [hbnode] at hb'
      cases hb'
      rfl
    obtain ⟨others, hgives, hothers, haddrs'⟩ :=
      exists_found h hbnode hbprimary hpeers' fun a ha _ => hall a ha
    have hmem : ∀ a, a ∈ others.addresses ↔ a ∈ members.addresses := by
      intro a
      rw [haddrs', hbstate, Replies.mem_seed_joining_iff hhosts hblisted hbjoins, hmembers]
    have hperm := hshows.perm hothers hmem
    refine ⟨others, ?_, hperm, Membership.tier?_of_perm hperm⟩
    intro u hu
    obtain ⟨v, -, hv⟩ := hgives u hu
    exact ⟨v, hv⟩

def neighbours : Cluster :=
  Cluster.ofNodes [PlanContext.syncedNode "db1",
    { PlanContext.syncedNode "db2" with isPrimary := false },
    { PlanContext.syncedNode "db3" with stateId := ⟨1⟩ },
    { PlanContext.syncedNode "db4" with state := .donor }]

theorem same_members_from_any_member_of_neighbours :
    (∀ m ∈ neighbours.rows, m.answersLeft = none) ∧
    (neighbours.addresses.map Addr.host).Nodup ∧
    ∃ members others : Membership, members.addresses = [⟨"db1", 3306⟩, ⟨"db4", 3306⟩] ∧
      (∃ t, discover Cluster.access ⟨"db1", 3306⟩ neighbours = .ok members t) ∧
      (∃ t, discover Cluster.access ⟨"db4", 3306⟩ neighbours = .ok others t) ∧
      others.rows.Perm members.rows ∧ others.tier? = members.tier? := by
  have hlimit : ∀ m ∈ neighbours.rows, m.answersLeft = none := by decide +kernel
  have hhosts : (neighbours.addresses.map Addr.host).Nodup := by decide +kernel
  have hfound : (result? (discover Cluster.access ⟨"db1", 3306⟩) neighbours).map
      (fun members => members.rows.map Node.addr) =
        some [⟨"db1", 3306⟩, ⟨"db4", 3306⟩] := by decide +kernel
  obtain ⟨members, hresult, haddrs⟩ := Option.map_eq_some_iff.1 hfound
  obtain ⟨t, ht⟩ := exists_of_result? hresult
  have hmem : (⟨"db4", 3306⟩ : Addr) ∈ members.rows.map Node.addr := by simp [haddrs]
  obtain ⟨b, hb, hbaddr⟩ := List.mem_map.1 hmem
  obtain ⟨others, hothers, hperm, htier⟩ :=
    same_members_from_any_member (Cluster.answers_access hlimit) (s := neighbours) rfl hhosts
      (by decide +kernel) rfl ht hb (hbaddr ▸ rfl)
  rw [hbaddr] at hothers
  exact ⟨hlimit, hhosts, members, others, haddrs, ⟨t, ht⟩, hothers neighbours rfl, hperm, htier⟩

end Discovery

end SingleWriter
