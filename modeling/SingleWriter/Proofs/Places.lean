import SingleWriter.Proofs.Plans
import Mathlib.Data.List.Forall2

/-!
# Places of rows

A plan leaves every row in its place and adds new rows at the end: the keys of the current
set are a prefix of the planned ones, stage by stage. A set that is planned to the same
look-ups is therefore planned to the same rows in the same order, and the rows of a
hostgroup that only change stay in order among themselves.
-/

set_option autoImplicit false

namespace SingleWriter

namespace Table

variable {α κ : Type} {key : α → κ}

theorem prefix_keys_mapRows (t : Table key) (f : α → α) (hf : ∀ a, key (f a) = key a) :
    t.keys <+: (t.mapRows f hf).keys :=
  (keys_mapRows t f hf).symm ▸ List.prefix_rfl

theorem prefix_keys_foldl {β : Type} {step : Table key → β → Table key}
    (hstep : ∀ t b, t.keys <+: (step t b).keys) (bs : List β) (t : Table key) :
    t.keys <+: (bs.foldl step t).keys := by
  induction bs generalizing t with
  | nil => exact List.prefix_rfl
  | cons b rest ih => exact (hstep t b).trans (ih (step t b))

variable [DecidableEq κ] {s t : Table key}

theorem prefix_keys_insert (t : Table key) (a : α) : t.keys <+: (t.insert a).keys := by
  rw [keys_insert]
  split
  · exact List.prefix_rfl
  · exact List.prefix_append _ _

theorem prefix_keys_change (t : Table key) (k : κ) (f : α → α) (hf : ∀ a, key (f a) = key a) :
    t.keys <+: (t.change k f hf).keys :=
  (keys_change t k f hf).symm ▸ List.prefix_rfl

/-- A table that only keeps or adds keys and has the same look-up is the same. -/
theorem eq_of_prefix_keys (hkeys : s.keys <+: t.keys) (h : ∀ k, t.get? k = s.get? k) : t = s := by
  obtain ⟨added, hadded⟩ := hkeys
  have hnone : added = [] := by
    apply List.eq_nil_iff_forall_not_mem.2
    intro k hk
    obtain ⟨a, ha⟩ := mem_keys_iff.1 (hadded ▸ List.mem_append_right s.keys hk)
    rw [h] at ha
    have hnodup : (s.keys ++ added).Nodup := hadded ▸ t.nodup
    exact (List.nodup_append.1 hnodup).2.2 k (mem_keys_iff.2 ⟨a, ha⟩) k hk rfl
  rw [hnone, List.append_nil] at hadded
  apply ext_rows
  rw [rows_eq_filterMap, rows_eq_filterMap s, hadded, show t.get? = s.get? from funext h]

/-- Rows of a table that are changed and inserted again change in their places. -/
theorem rows_foldl_insert_map {rows : List α} {p : α → Prop} [DecidablePred p] {f : α → α}
    (hf : ∀ a, key (f a) = key a) (h : ∀ a, a ∈ rows ↔ a ∈ t.rows ∧ p a) :
    ((rows.map f).foldl insert t).rows = t.rows.map fun a => if p a then f a else a := by
  have hkey : ∀ a, key (if p a then f a else a) = key a := by
    intro a
    split
    · exact hf a
    · rfl
  suffices hsame : (rows.map f).foldl insert t = t.mapRows _ hkey from congrArg Table.rows hsame
  apply eq_of_prefix_keys
  · rw [keys_mapRows]
    exact prefix_keys_foldl prefix_keys_insert _ t
  · intro k
    have hwritten : ∀ b ∈ (rows.map f).reverse, key b = k →
        ∃ a, t.get? k = some a ∧ p a ∧ b = f a := by
      intro b hb hk
      obtain ⟨a, ha, rfl⟩ := List.mem_map.1 (List.mem_reverse.1 hb)
      obtain ⟨hrow, hp⟩ := (h a).1 ha
      exact ⟨a, get?_eq_some_iff.2 ⟨hrow, (hf a).symm.trans hk⟩, hp, rfl⟩
    rw [get?_foldl_insert, get?_mapRows]
    cases hlast : (rows.map f).reverse.find? fun b => key b = k with
    | some b =>
      obtain ⟨a, ha, hp, rfl⟩ := hwritten b (List.mem_of_find?_eq_some hlast)
        (by simpa using List.find?_some hlast)
      rw [ha, Option.some_or, Option.map_some, if_pos hp]
    | none =>
      cases hrow : t.get? k with
      | none => rfl
      | some a =>
        obtain ⟨ha, rfl⟩ := get?_eq_some_iff.1 hrow
        have hnot : ¬p a := by
          intro hp
          have hmem : f a ∈ (rows.map f).reverse :=
            List.mem_reverse.2 (List.mem_map_of_mem ((h a).2 ⟨ha, hp⟩))
          simpa [hf] using List.find?_eq_none.1 hlast (f a) hmem
        rw [Option.none_or, Option.map_some, if_neg hnot]

/-- Rows are paired by their keys, and what is left over has new keys. -/
theorem exists_rows_of_prefix_keys {R : α → α → Prop} (hkeys : s.keys <+: t.keys)
    (h : ∀ {k a b}, s.get? k = some a → t.get? k = some b → R a b) :
    ∃ kept added, t.rows = kept ++ added ∧ List.Forall₂ R s.rows kept ∧
      ∀ b ∈ added, s.get? (key b) = none := by
  obtain ⟨newKeys, hnew⟩ := hkeys
  obtain ⟨kept, added, hrows, hkept, hadded⟩ := List.map_eq_append_iff.1 hnew.symm
  have hsame : List.Forall₂ (· = ·) (s.rows.map key) (kept.map key) := by
    rw [List.forall₂_eq_eq_eq]
    exact hkept.symm
  have hpaired : List.Forall₂ (fun a b => key a = key b) s.rows kept :=
    List.forall₂_map_left_iff.1 (List.forall₂_map_right_iff.1 hsame)
  refine ⟨kept, added, hrows, ?_, ?_⟩
  · rw [List.forall₂_iff_zip] at hpaired ⊢
    refine ⟨hpaired.1, fun {a b} hab => ?_⟩
    obtain ⟨ha, hb⟩ := List.of_mem_zip hab
    have hkey := hpaired.2 hab
    exact h (get?_key ha) (hkey ▸ get?_key (hrows ▸ List.mem_append_left added hb))
  · intro b hb
    rw [Option.eq_none_iff_forall_ne_some]
    intro a ha
    have hnodup : (s.keys ++ newKeys).Nodup := hnew ▸ t.nodup
    have hmem : key b ∈ newKeys := hadded ▸ List.mem_map_of_mem hb
    exact (List.nodup_append.1 hnodup).2.2 _ (mem_keys_iff.2 ⟨a, ha⟩) _ hmem rfl

/-- Tables with the same look-up have the same rows, in some order. -/
theorem perm_of_get?_eq (h : ∀ k, t.get? k = s.get? k) : t.rows.Perm s.rows := by
  have hmem : ∀ (u : Table key) (a : α), a ∈ u.rows ↔ u.get? (key a) = some a := by
    intro u a
    rw [get?_eq_some_iff, and_iff_left rfl]
  rw [List.perm_ext_iff_of_nodup (List.Nodup.of_map key t.nodup) (List.Nodup.of_map key s.nodup)]
  intro a
  rw [hmem, hmem, h]

theorem get?_of_perm (h : t.rows.Perm s.rows) (k : κ) : t.get? k = s.get? k := by
  ext a
  rw [get?_eq_some_iff, get?_eq_some_iff, h.mem_iff]

/-- Tables that keep the same keys and have the same look-up differ only in the order of what
they add. -/
theorem exists_perm_of_prefix_keys {u : Table key} (ht : s.keys <+: t.keys)
    (hu : s.keys <+: u.keys) (h : ∀ k, u.get? k = t.get? k) :
    ∃ kept added added', t.rows = kept ++ added ∧ u.rows = kept ++ added' ∧
      kept.map key = s.keys ∧ added'.Perm added := by
  obtain ⟨newKeys, hnew⟩ := ht
  obtain ⟨newKeys', hnew'⟩ := hu
  obtain ⟨kept, added, hrows, hkept, -⟩ := List.map_eq_append_iff.1 hnew.symm
  obtain ⟨kept', added', hrows', hkept', -⟩ := List.map_eq_append_iff.1 hnew'.symm
  have hmem : ∀ a ∈ kept, a ∈ t.rows := fun a ha => hrows ▸ List.mem_append_left added ha
  have hmem' : ∀ a ∈ kept', a ∈ u.rows := fun a ha => hrows' ▸ List.mem_append_left added' ha
  have hsame : kept' = kept := by
    rw [← filterMap_keys hmem, ← filterMap_keys hmem', hkept, hkept', show u.get? = t.get? from
      funext h]
  subst hsame
  have hperm := perm_of_get?_eq h
  rw [hrows, hrows'] at hperm
  exact ⟨kept', added, added', hrows, hrows', hkept, (List.perm_append_left_iff kept').1 hperm⟩

end Table

namespace BackendSet

variable {s t : BackendSet} {g : UInt32}

theorem inHostgroup_eq_filterMap (t : BackendSet) (g : UInt32) :
    t.inHostgroup g = (t.keys.filter (·.hostgroup = g)).filterMap t.get? := by
  have hkeys : t.keys.filter (·.hostgroup = g) = (t.inHostgroup g).map Backend.key := by
    rw [Table.keys, List.filter_map]
    rfl
  have hmem : ∀ b ∈ t.inHostgroup g, b ∈ t.rows := fun b hb => (List.mem_filter.1 hb).1
  rw [hkeys, Table.filterMap_keys hmem]

/-- Rows of a hostgroup that are changed in place stand in the same order. -/
theorem inHostgroup_eq_map {f : Backend → Backend} (hkeys : s.keys <+: t.keys)
    (h : ∀ a, t.find? g a = (s.find? g a).map f) : t.inHostgroup g = (s.inHostgroup g).map f := by
  obtain ⟨added, hadded⟩ := hkeys
  have hnone : added.filter (·.hostgroup = g) = [] := by
    rw [List.filter_eq_nil_iff]
    intro k hk hg
    obtain rfl : k.hostgroup = g := by simpa using hg
    obtain ⟨b, hb⟩ := Table.mem_keys_iff.1 (hadded ▸ List.mem_append_right s.keys hk)
    obtain ⟨c, hc, -⟩ := Option.map_eq_some_iff.1 ((h k.addr).symm.trans hb)
    have hnodup : (s.keys ++ added).Nodup := hadded ▸ t.nodup
    exact (List.nodup_append.1 hnodup).2.2 k (Table.mem_keys_iff.2 ⟨c, hc⟩) k hk rfl
  have hsame : t.keys.filter (·.hostgroup = g) = s.keys.filter (·.hostgroup = g) := by
    rw [← hadded, List.filter_append, hnone, List.append_nil]
  rw [inHostgroup_eq_filterMap, inHostgroup_eq_filterMap s, hsame, List.map_filterMap]
  apply List.filterMap_congr
  intro k hk
  obtain rfl : k.hostgroup = g := by simpa using (List.mem_filter.1 hk).2
  exact h k.addr

end BackendSet

namespace PlanContext

variable (ctx : PlanContext)

/-! ## Election -/

theorem prefix_keys_ensureReader (s : BackendSet) (a : Addr) :
    s.keys <+: (ctx.ensureReader s a).keys := by
  unfold ensureReader
  split
  · split
    · exact Table.prefix_keys_change s _ _ _
    · exact Table.prefix_keys_change s _ _ _
  · exact Table.prefix_keys_insert s _

theorem prefix_keys_demote (s : BackendSet) (a : Addr) : s.keys <+: (ctx.demote s a).keys :=
  Table.prefix_keys_change s _ _ (Backend.key_withStatus .offlineHard)

theorem prefix_keys_activateWriter (s : BackendSet) (a : Addr) :
    s.keys <+: (ctx.activateWriter s a).keys :=
  Table.prefix_keys_change s _ _ _

theorem prefix_keys_recover (s : BackendSet) (a : Addr) : s.keys <+: (ctx.recover s a).keys := by
  unfold recover
  split
  · exact ctx.prefix_keys_activateWriter s a
  · exact (ctx.prefix_keys_demote s a).trans (ctx.prefix_keys_ensureReader _ a)

theorem prefix_keys_install (s : BackendSet) (a : Addr) : s.keys <+: (ctx.install s a).keys := by
  unfold install
  split
  · exact ctx.prefix_keys_activateWriter s a
  · exact Table.prefix_keys_insert s _

theorem prefix_keys_recovered (s : BackendSet) : s.keys <+: (ctx.recovered s).keys := by
  have hsettled : s.keys <+: (ctx.settled s).keys := Table.prefix_keys_mapRows s _ _
  exact hsettled.trans (Table.prefix_keys_foldl ctx.prefix_keys_recover (ctx.recovering s) _)

theorem prefix_keys_elect (s : BackendSet) : s.keys <+: (ctx.elect s).1.keys := by
  apply (ctx.prefix_keys_recovered s).trans
  rw [elect_eq]
  rcases ctx.electFrom_cases (ctx.recovered s) with ⟨_, extra, -, he⟩ | ⟨-, x, -, he⟩ | ⟨-, -, he⟩
  · rw [he]
    exact Table.prefix_keys_foldl ctx.prefix_keys_demote extra _
  · rw [he]
    exact ctx.prefix_keys_install _ x
  · have hsame : (ctx.electFrom (ctx.recovered s)).1.keys = (ctx.recovered s).keys := by rw [he]
    exact hsame.symm ▸ List.prefix_rfl

/-! ## Readers -/

theorem prefix_keys_convergeReaders (s : BackendSet) (writer : Option Addr) :
    s.keys <+: (ctx.convergeReaders s writer).keys := by
  have hsettled : s.keys <+: (ctx.settledReaders s writer).keys :=
    Table.prefix_keys_mapRows s _ _
  cases writer with
  | none => exact hsettled
  | some w =>
    apply hsettled.trans
    change _ <+: (ctx.fallback (ctx.settledReaders s (some w)) w).keys
    unfold fallback
    split
    · exact List.prefix_rfl
    · exact ctx.prefix_keys_ensureReader _ w

theorem prefix_keys_addReader (s : BackendSet) (a : Addr) :
    s.keys <+: (ctx.addReader s a).keys := by
  unfold addReader
  split
  · exact List.prefix_rfl
  · exact Table.prefix_keys_insert s _

theorem prefix_keys_retireWriterReader (s : BackendSet) (w : Addr) :
    s.keys <+: (ctx.retireWriterReader s w).keys := by
  unfold retireWriterReader
  dsimp only
  split
  · exact Table.prefix_keys_change s _ _ _
  · exact List.prefix_rfl

theorem prefix_keys_promoteDonor (s : BackendSet) (w : Addr) :
    s.keys <+: (ctx.promoteDonor s w).keys := by
  unfold promoteDonor
  split
  · exact List.prefix_rfl
  · split
    · exact Table.prefix_keys_change s _ _ _
    · exact List.prefix_rfl

theorem prefix_keys_served (s : BackendSet) (writer : Option Addr) :
    s.keys <+: (ctx.served s writer).keys := by
  have hfilled := (ctx.prefix_keys_convergeReaders s writer).trans
    (Table.prefix_keys_foldl ctx.prefix_keys_addReader ctx.health.candidates _)
  cases writer with
  | none => exact hfilled
  | some w =>
    exact (hfilled.trans (ctx.prefix_keys_retireWriterReader _ w)).trans
      (ctx.prefix_keys_promoteDonor _ w)

/-- Every current row stays in its place, and new rows come after them. -/
theorem prefix_keys_plan (current : BackendSet) :
    current.keys <+: (ctx.plan current).backends.keys :=
  (ctx.prefix_keys_elect current).trans (ctx.prefix_keys_served _ _)

end PlanContext

end SingleWriter
