import SingleWriter.Proofs.Incumbents
import SingleWriter.Proofs.Matching
import SingleWriter.Proofs.PartialPasses

/-!
# The order of the table

A store in memory lists a hostgroup in the order of the keys, so that a pass loads the same
rows in the same order wherever they stand in the table. Stores that differ in the order of
their rows match whatever is done to them, and a pass ends alike on both. The first online row
that stays is then the one with the least address, and it is the one that is kept.
-/

set_option autoImplicit false

namespace SingleWriter

open SingleWriter.Action

/-! ## Keys in order -/

instance : Std.TransOrd Addr :=
  inferInstanceAs (Std.TransCmp (compareLex (compareOn Addr.host) (compareOn Addr.port)))

instance : Std.LawfulEqOrd Addr where
  eq_of_compare h := Table.eq_of_compareLex (by rintro ⟨⟩ ⟨⟩ rfl rfl; rfl) h

/-- Addresses are ordered by host and then by port. -/
theorem Addr.isLE_compare_iff {a b : Addr} :
    (compare a b).isLE = true ↔ a.host < b.host ∨ (a.host = b.host ∧ a.port ≤ b.port) := by
  have hlt : compare a.host b.host = .lt ↔ a.host < b.host := compareOfLessAndEq_eq_lt
  have heq : compare a.host b.host = .eq ↔ a.host = b.host := Std.LawfulEqCmp.compare_eq_iff_eq
  have hle : (compare a.port b.port).isLE = true ↔ a.port ≤ b.port := Std.isLE_compare
  rw [← hlt, ← heq, ← hle]
  exact Ordering.isLE_then_iff_or

namespace Backend

instance : Std.TransOrd Key :=
  inferInstanceAs (Std.TransCmp (compareLex (compareOn Key.hostgroup) (compareOn Key.addr)))

instance : Std.LawfulEqOrd Key where
  eq_of_compare h := Table.eq_of_compareLex (by rintro ⟨⟩ ⟨⟩ rfl rfl; rfl) h

/-- Keys of one hostgroup are ordered by their addresses. -/
theorem isLE_compare_key {a b : Backend} (h : a.hostgroup = b.hostgroup) :
    (compare a.key b.key).isLE = (compare a.addr b.addr).isLE := by
  have heq : compare a.hostgroup b.hostgroup = .eq := Std.LawfulEqCmp.compare_eq_iff_eq.2 h
  change ((compare a.hostgroup b.hostgroup).then (compare a.addr b.addr)).isLE = _
  rw [heq]
  rfl

end Backend

/-! ## Shuffled tables -/

theorem BackendSet.perm_effect {s t : BackendSet} (h : t.rows.Perm s.rows) (m : Mutation) :
    (m.effect t).rows.Perm (m.effect s).rows := by
  apply Table.perm_of_get?_eq
  intro k
  rw [Mutation.get?_effect, Mutation.get?_effect, Table.get?_of_perm h]

namespace Store

def Shuffled (s t : Store) : Prop :=
  ∃ table : BackendSet, table.rows.Perm s.backends.rows ∧ t = { s with backends := table }

theorem sorted_filter_of_perm {s t : BackendSet} (h : t.rows.Perm s.rows) (p : Backend → Bool) :
    sorted (t.rows.filter p) = sorted (s.rows.filter p) :=
  Table.mergeSort_key_eq_of_perm (t := t) (fun _ ha => (List.mem_filter.1 ha).1) (h.filter p)

theorem matches_reachable : Matches Shuffled reachable := by
  rintro s _ ⟨table, hperm, rfl⟩
  unfold reachable
  dsimp only
  split
  · exact .error ⟨table, hperm, rfl⟩
  · exact .ok ⟨table, hperm, rfl⟩

theorem matches_acceptWrite : Matches Shuffled acceptWrite := by
  rintro s _ ⟨table, hperm, rfl⟩
  unfold acceptWrite
  dsimp only
  split
  · exact .error ⟨table, hperm, rfl⟩
  · split
    · exact .ok ⟨table, hperm, rfl⟩
    · exact .error ⟨table, hperm, rfl⟩
    · exact .ok ⟨table, hperm, rfl⟩

theorem matches_note (call : Call) : Matches Shuffled (note call) := by
  rintro s _ ⟨table, hperm, rfl⟩
  exact .ok ⟨table, hperm, rfl⟩

/-- A write has the same effect on the rows, wherever they stand. -/
theorem matches_effect (m : Mutation) :
    Matches Shuffled (modify fun s => { s with backends := m.effect s.backends } :
      Action Store Unit) := by
  rintro s _ ⟨table, hperm, rfl⟩
  exact .ok ⟨m.effect table, BackendSet.perm_effect hperm m, rfl⟩

theorem matches_setStatus (b : Backend) (status : Status) :
    Matches Shuffled (setStatus b status) := by
  apply matches_acceptWrite.bind
  rintro - s _ ⟨table, hperm, rfl⟩
  have hthere : table.contains b.key = s.backends.contains b.key := by
    rw [Table.contains_eq_isSome, Table.contains_eq_isSome, Table.get?_of_perm hperm]
  have hset := ((matches_effect (.setStatus (b.withStatus status))).bind fun _ =>
    matches_note (.setStatus b.key status)) ⟨table, hperm, rfl⟩
  change EndsAlike Shuffled
    ((if s.backends.contains b.key = true then _ else _ : Action Store Unit) s)
    ((if table.contains b.key = true then _ else _ : Action Store Unit) _)
  rw [hthere]
  split
  · exact hset
  · exact .error ⟨table, hperm, rfl⟩

theorem matches_listBackends (g : Option UInt32) (status : Option Status) :
    Matches Shuffled (listBackends g status) := by
  have hget : ∀ u : Store, (get : Action Store Store) u = .ok u u := fun _ => rfl
  apply matches_reachable.bind
  rintro - s _ ⟨table, hperm, rfl⟩
  have hsame := sorted_filter_of_perm hperm (isListed g status)
  rw [bind_of_ok (hget _), bind_of_ok (hget _)]
  cases hrows : sorted (s.backends.rows.filter (isListed g status)) with
  | nil =>
    simp only [hsame, hrows]
    exact .error ⟨table, hperm, rfl⟩
  | cons b rest =>
    simp only [hsame, hrows]
    exact .ok ⟨table, hperm, rfl⟩

theorem matches_admin : admin.Matches Shuffled where
  register b := matches_acceptWrite.bind fun _ => (matches_effect (.register b)).bind fun _ =>
    matches_note (.register b.key b.status)
  deregister b := matches_acceptWrite.bind fun _ => (matches_effect (.deregister b)).bind fun _ =>
    matches_note (.deregister b.key)
  setStatus := matches_setStatus
  setVariable name value := by
    apply matches_reachable.bind
    rintro - s _ ⟨table, hperm, rfl⟩
    exact .ok ⟨table, hperm, rfl⟩
  reload := matches_reachable.bind fun _ => matches_note .reload
  backends := matches_listBackends

end Store

/-! ## Rows that are loaded in order -/

def AdminStore.Sorts {σ : Type} (admin : AdminStore σ) : Prop :=
  ∀ {g s rows t}, admin.backends (some g) none s = .ok rows t →
    rows.Pairwise fun a b => (compare a.key b.key).isLE = true

theorem Store.sorts_admin : admin.Sorts := by
  intro g s rows t h
  obtain ⟨_, u, -, h⟩ := bind_eq_ok.1 h
  obtain ⟨_, _, ⟨⟩, h⟩ := bind_eq_ok.1 h
  cases hrows : sorted (u.backends.rows.filter (isListed (some g) none)) with
  | nil =>
    simp only [hrows] at h
    exact absurd h throw_ne_ok
  | cons b rest =>
    simp only [hrows] at h
    rw [← (pure_eq_ok.1 h).1, ← hrows]
    exact Table.pairwise_mergeSort_key Backend.key _

theorem AdminStore.Sorts.within {σ τ : Type} {admin : AdminStore σ} {part : τ → σ}
    {replace : σ → τ → τ} (h : admin.Sorts) : (admin.within part replace).Sorts := by
  intro g t rows u hu
  obtain ⟨s, hs, -⟩ := within_eq_ok.1 hu
  exact h hs

theorem AdminStore.Sorts.backendsOrNone {σ : Type} {admin : AdminStore σ} (h : admin.Sorts)
    {g : UInt32} {s t : σ} {rows : List Backend} (hrows : admin.backendsOrNone g s = .ok rows t) :
    rows.Pairwise fun a b => (compare a.key b.key).isLE = true := by
  unfold AdminStore.backendsOrNone at hrows
  split at hrows
  · rename_i hlisted
    cases hrows
    exact h hlisted
  · cases hrows
    exact .nil
  · cases hrows

namespace Reconciler

variable {σ : Type} {table : σ → BackendSet} {r : Reconciler σ} {groups : List UInt32} {s u : σ}

theorem pairwise_loadRows (h : r.admin.Tabled table) (hsorts : r.admin.Sorts)
    (hg : groups.Nodup) {rows : List Backend} (hrows : r.loadRows groups s = .ok rows u)
    (g : UInt32) :
    (rows.filter (·.hostgroup = g)).Pairwise fun a b => (compare a.key b.key).isLE = true := by
  induction groups generalizing s u rows with
  | nil =>
    rw [← (pure_eq_ok.1 hrows).1]
    exact .nil
  | cons g' rest ih =>
    obtain ⟨first, v, hfirst, hrows⟩ := bind_eq_ok.1 hrows
    obtain ⟨others, w, hothers, hrows⟩ := bind_eq_ok.1 hrows
    obtain ⟨hnew, hrest⟩ := List.nodup_cons.1 hg
    rw [← (pure_eq_ok.1 hrows).1, List.filter_append, List.pairwise_append]
    refine ⟨(hsorts.backendsOrNone hfirst).filter _, ih hrest hothers, ?_⟩
    -- The rows of a hostgroup all come from the one place where it is named.
    intro a ha b hb
    obtain ⟨ha, hag⟩ := List.mem_filter.1 ha
    obtain ⟨hb, hbg⟩ := List.mem_filter.1 hb
    have ha' : a.hostgroup = g' := by
      have hin := (perm_backendsOrNone h hfirst).mem_iff.1 ha
      simpa [BackendSet.inHostgroup] using (List.mem_filter.1 hin).2
    have hb' := (BackendSet.mem_flatMap_inHostgroup.1 ((perm_loadRows h hothers).mem_iff.1 hb)).2
    rw [of_decide_eq_true hbg, ← of_decide_eq_true hag, ha'] at hb'
    exact absurd hb' hnew

/-- A hostgroup that is loaded is in the order of its keys. -/
theorem pairwise_inHostgroup_of_load (h : r.admin.Tabled table) (hsorts : r.admin.Sorts)
    (hg : groups.Nodup) {current : BackendSet} (hload : r.load groups s = .ok current u)
    (g : UInt32) :
    (current.inHostgroup g).Pairwise fun a b => (compare a.key b.key).isLE = true := by
  obtain ⟨rows, v, hrows, hload⟩ := bind_eq_ok.1 hload
  have hnodup := ((perm_loadRows h hrows).map Backend.key).nodup_iff.2
    (BackendSet.nodup_key_flatMap (table s) hg)
  rw [← (pure_eq_ok.1 hload).1, BackendSet.inHostgroup, Table.rows_ofList hnodup]
  exact pairwise_loadRows h hsorts hg hrows g

/-- After a pass that succeeds its writer alone is online. -/
theorem addr_onlineIn_of_reconcile (h : r.admin.Tabled table) {req : PassRequest}
    (hne : req.writerGroup ≠ req.readerGroup) {report : Report} {t : σ}
    (hok : r.reconcile req s = .ok report t) :
    ((table t).onlineIn req.writerGroup).map Backend.addr = report.writer.toList := by
  obtain ⟨health, u, current, -, hwriter, -, hlive⟩ := sameLive_reconcile h hne hok
  apply BackendSet.addr_onlineIn_eq_toList
  intro a
  rw [hwriter, ← PlanContext.onlineAt_plan_iff _ hne]
  exact hlive.onlineAt_iff (by simp)

/-- In a sorted list the first item that passes a test comes before every other one. -/
theorem rel_of_find? {α : Type} {le : α → α → Prop} {p : α → Bool} {items : List α}
    (hsorted : items.Pairwise le) (hrefl : ∀ a, le a a) {a b : α} (ha : items.find? p = some a)
    (hb : b ∈ items) (hp : p b = true) : le a b := by
  obtain ⟨-, before, after, rfl, hbefore⟩ := List.find?_eq_some_iff_append.1 ha
  obtain ⟨-, hrest, -⟩ := List.pairwise_append.1 hsorted
  rcases List.mem_append.1 hb with hb | hb
  · have hfails := hbefore b hb
    rw [hp] at hfails
    cases hfails
  · rcases List.mem_cons.1 hb with rfl | hb
    · exact hrefl b
    · exact (List.pairwise_cons.1 hrest).1 b hb

/-- The writer of a pass is the least one of the rows that stay online. -/
theorem least_writer_of_reconcile (h : r.admin.Tabled table) (hsorts : r.admin.Sorts)
    (hnodes : r.nodes.Spares table) {req : PassRequest}
    (hne : req.writerGroup ≠ req.readerGroup) {report : Report} {t : σ}
    (hok : r.reconcile req s = .ok report t) :
    ∃ health v, r.survey req.seeds s = .ok health v ∧
      ∀ b ∈ (table s).inHostgroup req.writerGroup, (req.context health).staysOnline b = true →
        ∃ w ∈ (table s).inHostgroup req.writerGroup, (req.context health).staysOnline w = true ∧
          report.writer = some w.addr ∧
          ∀ c ∈ (table s).inHostgroup req.writerGroup,
            (req.context health).staysOnline c = true → (compare w.addr c.addr).isLE = true := by
  have hgroups : [req.writerGroup, req.readerGroup].Nodup := by simp [hne]
  obtain ⟨health, v, current, x, hsurvey, hload, -, hwriter, -⟩ := reconcile_eq_ok hok
  have hrows : ∀ b, b ∈ current.inHostgroup req.writerGroup ↔
      b ∈ (table s).inHostgroup req.writerGroup := by
    intro b
    have hsame : table v = table s := (keeps_survey hnodes req.seeds).ok hsurvey
    simp only [BackendSet.inHostgroup, List.mem_filter, mem_of_load h hload, hsame,
      decide_eq_true_eq]
    constructor
    · rintro ⟨⟨hb, -⟩, hg⟩
      exact ⟨hb, hg⟩
    · rintro ⟨hb, hg⟩
      exact ⟨⟨hb, by simp [hg]⟩, hg⟩
  have hsorted := pairwise_inHostgroup_of_load h hsorts hgroups hload req.writerGroup
  refine ⟨health, v, hsurvey, ?_⟩
  intro b hb hstays
  cases hfirst : (current.inHostgroup req.writerGroup).find? (req.context health).staysOnline with
  | none => exact absurd hstays (List.find?_eq_none.1 hfirst b ((hrows b).2 hb))
  | some w =>
    have hw := List.mem_of_find?_eq_some hfirst
    refine ⟨w, (hrows w).1 hw, List.find?_some hfirst,
      hwriter.trans ((req.context health).writer_of_find?_staysOnline hne hfirst), ?_⟩
    intro c hc hcstays
    have hgroup : ∀ a ∈ current.inHostgroup req.writerGroup, a.hostgroup = req.writerGroup :=
      fun a ha => of_decide_eq_true (List.mem_filter.1 ha).2
    rw [← Backend.isLE_compare_key ((hgroup w hw).trans (hgroup c ((hrows c).2 hc)).symm)]
    exact rel_of_find? hsorted (fun _ => Std.ReflCmp.isLE_rfl) hfirst ((hrows c).2 hc) hcstays

end Reconciler

namespace Deployment

def Shuffled (d e : Deployment) : Prop := ∃ store, d.store.Shuffled store ∧ e = { d with store }

theorem matches_memoryNodes : memoryNodes.Matches Shuffled := by
  apply Cluster.access.matches_eq.within
  · rintro d _ ⟨store, hstore, rfl⟩
    rfl
  · rintro d _ c _ ⟨store, hstore, rfl⟩ rfl
    exact ⟨store, hstore, rfl⟩

theorem matches_memoryAdmin : memoryAdmin.Matches Shuffled := by
  apply Store.matches_admin.within
  · rintro d _ ⟨store, hstore, rfl⟩
    exact hstore
  · rintro d _ s t ⟨store, -, rfl⟩ hst
    exact ⟨t, hst, rfl⟩

/-- The order of the table decides nothing. On stores that differ in the order of their rows a
pass ends with the same error or with the same report, the writes in the same order, and the
stores then differ in the order of their rows again. Of the online writer rows that a pass
leaves eligible, wherever they stand, the one with the least address is the writer, and it
alone is online. -/
theorem reconcile_of_shuffled (monitor : Option Credentials) (req : PassRequest)
    (hne : req.writerGroup ≠ req.readerGroup) :
    (∀ d e : Deployment, Shuffled d e →
      (∀ report d', (reconciler monitor).reconcile req d = .ok report d' →
        ∃ e', (reconciler monitor).reconcile req e = .ok report e' ∧ Shuffled d' e') ∧
      (∀ error d', (reconciler monitor).reconcile req d = .error error d' →
        ∃ e', (reconciler monitor).reconcile req e = .error error e' ∧ Shuffled d' e')) ∧
    ∀ d report d', (reconciler monitor).reconcile req d = .ok report d' →
      ∃ health d₁, (reconciler monitor).survey req.seeds d = .ok health d₁ ∧
        ∀ b ∈ d.store.backends.inHostgroup req.writerGroup,
          (req.context health).staysOnline b = true →
          ∃ w ∈ d.store.backends.inHostgroup req.writerGroup,
            (req.context health).staysOnline w = true ∧ report.writer = some w.addr ∧
            (d'.store.backends.onlineIn req.writerGroup).map Backend.addr = [w.addr] ∧
            ∀ c ∈ d.store.backends.inHostgroup req.writerGroup,
              (req.context health).staysOnline c = true →
              w.addr.host < c.addr.host ∨
                (w.addr.host = c.addr.host ∧ w.addr.port ≤ c.addr.port) := by
  constructor
  · intro d e h
    have hmatches := Reconciler.matches_reconcile (r := reconciler monitor) matches_memoryNodes
      matches_memoryAdmin req
    exact ⟨fun _ _ => hmatches.of_ok h, fun _ _ => hmatches.of_error h⟩
  · intro d report d' hok
    have hsorts : (reconciler monitor).admin.Sorts := Store.sorts_admin.within
    obtain ⟨health, d₁, hsurvey, hleast⟩ := Reconciler.least_writer_of_reconcile
      tabled_memoryAdmin hsorts (NodeAccess.spares_within fun _ _ => rfl) hne hok
    have honline := Reconciler.addr_onlineIn_of_reconcile tabled_memoryAdmin hne hok
    refine ⟨health, d₁, hsurvey, ?_⟩
    intro b hb hstays
    obtain ⟨w, hw, hwstays, hwriter, hle⟩ := hleast b hb hstays
    rw [hwriter] at honline
    refine ⟨w, hw, hwstays, hwriter, honline, ?_⟩
    intro c hc hcstays
    exact Addr.isLE_compare_iff.1 (hle c hc hcstays)

def twoWriters : Deployment where
  cluster := Cluster.ofNodes [PlanContext.syncedNode "db1", PlanContext.syncedNode "db2"]
  store := { backends := Table.ofList [Backend.new 10 ⟨"db2", 3306⟩ .writer,
    Backend.new 11 ⟨"db2", 3306⟩ .reader, Backend.new 10 ⟨"db1", 3306⟩ .writer] }
  network := Sql.Network.offline []

def twoWritersReversed : Deployment :=
  twoWriters.withStore { backends := Table.ofList twoWriters.store.backends.rows.reverse }

theorem reconcile_of_shuffled_of_twoWriters :
    degradedRequest.writerGroup ≠ degradedRequest.readerGroup ∧
    Shuffled twoWriters twoWritersReversed ∧
    ∃ report d' e', (reconciler none).reconcile degradedRequest twoWriters = .ok report d' ∧
      (reconciler none).reconcile degradedRequest twoWritersReversed = .ok report e' ∧
      Shuffled d' e' ∧ report.writer = some ⟨"db1", 3306⟩ ∧
      (d'.store.backends.onlineIn 10).map Backend.addr = [⟨"db1", 3306⟩] := by
  have hne : degradedRequest.writerGroup ≠ degradedRequest.readerGroup := by decide
  have hshuffled : Shuffled twoWriters twoWritersReversed :=
    ⟨_, ⟨Table.ofList twoWriters.store.backends.rows.reverse, by decide, rfl⟩, rfl⟩
  obtain ⟨hsame, hleast⟩ := reconcile_of_shuffled none degradedRequest hne
  have hok : (result? ((reconciler none).reconcile degradedRequest) twoWriters).map
      Report.writer = some (some ⟨"db1", 3306⟩) := by cbv
  obtain ⟨report, hreport, hdb1⟩ := Option.map_eq_some_iff.1 hok
  obtain ⟨d', hrun⟩ := exists_of_result? hreport
  obtain ⟨e', hrun', hshuffled'⟩ := (hsame _ _ hshuffled).1 report d' hrun
  obtain ⟨health, d₁, hsurvey, hrows⟩ := hleast twoWriters report d' hrun
  have hstays : (result? ((reconciler none).survey degradedRequest.seeds) twoWriters).map
      (fun health => (degradedRequest.context health).staysOnline
        (Backend.new 10 ⟨"db1", 3306⟩ .writer)) = some true := by cbv
  rw [result?, hsurvey] at hstays
  obtain ⟨w, -, -, hw, honline, -⟩ := hrows (Backend.new 10 ⟨"db1", 3306⟩ .writer) (by decide)
    (Option.some.inj hstays)
  rw [hdb1, Option.some.injEq] at hw
  rw [← hw] at honline
  exact ⟨hne, hshuffled, report, d', e', hrun, hrun', hshuffled', hdb1, honline⟩

end Deployment

end SingleWriter
