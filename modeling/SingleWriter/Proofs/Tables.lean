import SingleWriter.Table
import Mathlib.Data.List.Nodup

/-!
# Tables through their look-up

A row is in a table exactly when the look-up of its key gives it. Every operation is
described by what it does to the look-up of a key, so that later proofs never open the
list of rows. Rows that already have distinct keys make a table as they stand, and rows of
a table are sorted by their keys in one way only.
-/

set_option autoImplicit false

namespace SingleWriter.Table

variable {α κ : Type} {key : α → κ}

theorem eq_of_mem_of_key {t : Table key} {a b : α} (ha : a ∈ t.rows) (hb : b ∈ t.rows)
    (h : key a = key b) : a = b :=
  List.inj_on_of_nodup_map t.nodup ha hb h

/-! ## Rows in the order of their keys -/

/-- Items that are compared by two parts are equal when both parts are. -/
theorem eq_of_compareLex {β γ : Type} [Ord β] [Ord γ] [Std.LawfulEqOrd β] [Std.LawfulEqOrd γ]
    {f : α → β} {g : α → γ} (hparts : ∀ a b, f a = f b → g a = g b → a = b) {a b : α}
    (h : compareLex (compareOn f) (compareOn g) a b = .eq) : a = b := by
  obtain ⟨hf, hg⟩ := compareLex_eq_eq.1 h
  exact hparts a b (Std.LawfulEqCmp.compare_eq_iff_eq.1 hf)
    (Std.LawfulEqCmp.compare_eq_iff_eq.1 hg)

section Sorting

variable [Ord κ] [Std.TransOrd κ]

theorem pairwise_mergeSort_key (key : α → κ) (rows : List α) :
    (rows.mergeSort fun a b => (compare (key a) (key b)).isLE).Pairwise
      fun a b => (compare (key a) (key b)).isLE = true := by
  apply List.pairwise_mergeSort
  · intro a b c
    exact Std.TransCmp.isLE_trans
  · intro a b
    rw [Std.OrientedOrd.eq_swap (a := key a) (b := key b)]
    cases compare (key b) (key a) <;> rfl

/-- Rows of one table are in the order of their keys in one way only. -/
theorem mergeSort_key_eq_of_pairwise [Std.LawfulEqOrd κ] {t : Table key} {rows sorted : List α}
    (h : ∀ a ∈ rows, a ∈ t.rows) (hperm : rows.Perm sorted)
    (hsorted : sorted.Pairwise fun a b => (compare (key a) (key b)).isLE = true) :
    (rows.mergeSort fun a b => (compare (key a) (key b)).isLE) = sorted := by
  have hsame := List.mergeSort_perm rows fun a b => (compare (key a) (key b)).isLE
  apply (hsame.trans hperm).eq_of_pairwise _ (pairwise_mergeSort_key key rows) hsorted
  intro a b ha hb hab hba
  have hkey : key a = key b :=
    Std.LawfulEqCmp.compare_eq_iff_eq.1 (Std.OrientedCmp.isLE_antisymm hab hba)
  exact eq_of_mem_of_key (h a (hsame.mem_iff.1 ha)) (h b (hperm.mem_iff.2 hb)) hkey

theorem mergeSort_key_eq_of_perm [Std.LawfulEqOrd κ] {t : Table key} {rows rows' : List α}
    (h : ∀ a ∈ rows, a ∈ t.rows) (hperm : rows.Perm rows') :
    (rows.mergeSort fun a b => (compare (key a) (key b)).isLE) =
      rows'.mergeSort fun a b => (compare (key a) (key b)).isLE :=
  mergeSort_key_eq_of_pairwise h (hperm.trans (List.mergeSort_perm rows' _).symm)
    (pairwise_mergeSort_key key rows')

end Sorting

/-! ## Look-up -/

variable [DecidableEq κ]

theorem get?_eq_some_iff {t : Table key} {k : κ} {a : α} :
    t.get? k = some a ↔ a ∈ t.rows ∧ key a = k := by
  constructor
  · intro h
    exact ⟨mem_of_get? h, key_of_get? h⟩
  · rintro ⟨ha, rfl⟩
    cases h : t.get? (key a) with
    | none => simpa using List.find?_eq_none.1 h a ha
    | some b => rw [eq_of_mem_of_key (mem_of_get? h) ha (key_of_get? h)]

theorem get?_key {t : Table key} {a : α} (h : a ∈ t.rows) : t.get? (key a) = some a :=
  get?_eq_some_iff.2 ⟨h, rfl⟩

theorem mem_keys_iff {t : Table key} {k : κ} : k ∈ t.keys ↔ ∃ a, t.get? k = some a := by
  rw [← contains_iff, contains_eq_isSome, Option.isSome_iff_exists]

/-- Rows are what the look-up gives at their keys. -/
theorem filterMap_keys {t : Table key} {rows : List α} (h : ∀ a ∈ rows, a ∈ t.rows) :
    (rows.map key).filterMap t.get? = rows := by
  have hfound : rows.filterMap (t.get? ∘ key) = rows.filterMap some := by
    apply List.filterMap_congr
    intro a ha
    exact get?_key (h a ha)
  rw [List.filterMap_map, hfound, List.filterMap_some]

theorem rows_eq_filterMap (t : Table key) : t.rows = t.keys.filterMap t.get? :=
  (filterMap_keys fun _ ha => ha).symm

/-! ## Operations -/

theorem get?_mapRows (t : Table key) (f : α → α) (hf : ∀ a, key (f a) = key a) (k : κ) :
    (t.mapRows f hf).get? k = (t.get? k).map f := by
  simp only [get?, mapRows, List.find?_map, Function.comp_def, hf]

theorem get?_change (t : Table key) (k : κ) (f : α → α) (hf : ∀ a, key (f a) = key a) (j : κ) :
    (t.change k f hf).get? j = if k = j then (t.get? j).map f else t.get? j := by
  have hkey : ∀ a, key (if key a = k then f a else a) = key a := by
    intro a
    split
    · exact hf a
    · rfl
  have hmap : (t.change k f hf).get? j = (t.get? j).map fun a => if key a = k then f a else a :=
    get?_mapRows t _ hkey j
  rw [hmap]
  cases h : t.get? j with
  | none => simp
  | some a =>
    have hj := key_of_get? h
    by_cases hk : k = j
    · simp [hj, hk]
    · simp [hj, hk, Ne.symm hk]

theorem find?_replaceRows (a : α) (rows : List α) (k : κ) :
    (replaceRows key a rows).find? (fun b => key b = k) =
      (rows.find? fun b => key b = k).map fun b => if key b = key a then a else b := by
  have hkey : ∀ b, key (if key b = key a then a else b) = key b := by
    intro b
    split
    · rename_i h
      exact h.symm
    · rfl
  simp only [replaceRows, List.find?_map, Function.comp_def, hkey]

theorem rows_insert_of_mem (t : Table key) (a : α) (h : key a ∈ t.keys) :
    (t.insert a).rows = replaceRows key a t.rows := by
  simp only [insert]
  rw [if_pos (contains_iff.2 h)]

theorem rows_insert_of_not_mem (t : Table key) (a : α) (h : key a ∉ t.keys) :
    (t.insert a).rows = t.rows ++ [a] := by
  simp only [insert]
  rw [if_neg (by rwa [contains_iff])]

theorem get?_insert (t : Table key) (a : α) (k : κ) :
    (t.insert a).get? k = if key a = k then some a else t.get? k := by
  by_cases hc : key a ∈ t.keys
  · rw [get?, rows_insert_of_mem t a hc, find?_replaceRows, ← get?]
    obtain ⟨b, hb⟩ := mem_keys_iff.1 hc
    by_cases hk : key a = k
    · subst hk
      simp [hb, key_of_get? hb]
    · cases h : t.get? k with
      | none => simp [hk]
      | some c => simp [hk, key_of_get? h, Ne.symm hk]
  · have hnone : t.get? (key a) = none := by
      simpa [mem_keys_iff, ← Option.eq_none_iff_forall_ne_some] using hc
    rw [get?, rows_insert_of_not_mem t a hc, List.find?_append, ← get?]
    by_cases hk : key a = k
    · subst hk
      simp [hnone]
    · simp [hk]

/-- Of several rows with one key the last one inserted stays. -/
theorem get?_foldl_insert (rows : List α) (t : Table key) (k : κ) :
    (rows.foldl insert t).get? k = (rows.reverse.find? fun a => key a = k).or (t.get? k) := by
  induction rows generalizing t with
  | nil => rfl
  | cons a rest ih =>
    rw [List.foldl_cons, ih, get?_insert, List.reverse_cons, List.find?_append, Option.or_assoc]
    by_cases h : key a = k <;> simp [h]

/-- Of rows with distinct keys each one that is inserted stays. -/
theorem get?_foldl_insert_of_nodup {rows : List α} (h : (rows.map key).Nodup) (t : Table key)
    (k : κ) :
    (rows.foldl insert t).get? k = (rows.find? fun a => key a = k).or (t.get? k) := by
  induction rows generalizing t with
  | nil => rfl
  | cons a rest ih =>
    rw [List.map_cons, List.nodup_cons] at h
    rw [List.foldl_cons, ih h.2, get?_insert, List.find?_cons]
    by_cases hk : key a = k
    · have hnone : rest.find? (fun b => key b = k) = none := by
        rw [List.find?_eq_none]
        intro b hb hbk
        exact h.1 (List.mem_map.2 ⟨b, hb, (of_decide_eq_true hbk).trans hk.symm⟩)
      simp [hk, hnone]
    · simp [hk]

theorem mem_keys_insert {t : Table key} {a : α} {k : κ} :
    k ∈ (t.insert a).keys ↔ k = key a ∨ k ∈ t.keys := by
  by_cases hmem : key a ∈ t.keys
  · rw [keys_insert, if_pos (contains_iff.2 hmem)]
    constructor
    · exact .inr
    · rintro (rfl | hk)
      · exact hmem
      · exact hk
  · rw [keys_insert, if_neg (by rwa [contains_iff]), List.mem_append, List.mem_singleton, or_comm]

theorem mem_keys_foldl_insert {rows : List α} {t : Table key} {k : κ} :
    k ∈ (rows.foldl insert t).keys ↔ k ∈ rows.map key ∨ k ∈ t.keys := by
  induction rows generalizing t with
  | nil => simp
  | cons a rest ih =>
    rw [List.foldl_cons, ih, mem_keys_insert, List.map_cons, List.mem_cons, or_left_comm,
      or_assoc]

theorem get?_filter (p : α → Bool) (t : Table key) (k : κ) :
    (t.filter p).get? k = (t.get? k).filter p := by
  ext a
  rw [get?_eq_some_iff, Option.filter_eq_some_iff, get?_eq_some_iff, filter, List.mem_filter]
  exact and_right_comm

/-- Where every row with the key of `a` fails a test, inserting `a` leaves the rows that pass. -/
theorem filter_rows_insert {p : α → Bool} {a : α} (hp : ∀ b, key b = key a → p b = false)
    (t : Table key) : (t.insert a).rows.filter p = t.rows.filter p := by
  by_cases hmem : key a ∈ t.keys
  · rw [rows_insert_of_mem t a hmem, replaceRows]
    induction t.rows with
    | nil => rfl
    | cons b rows ih =>
      by_cases hb : key b = key a
      · simp [hb, hp a rfl, hp b hb, ih]
      · simp [hb, List.filter_cons, ih]
  · rw [rows_insert_of_not_mem t a hmem, List.filter_append, List.filter_singleton, hp a rfl]
    exact List.append_nil _

theorem filter_rows_foldl_insert {p : α → Bool} {rows : List α}
    (hp : ∀ a ∈ rows, ∀ b, key b = key a → p b = false) (t : Table key) :
    (rows.foldl insert t).rows.filter p = t.rows.filter p := by
  induction rows generalizing t with
  | nil => rfl
  | cons a rest ih =>
    rw [List.foldl_cons, ih fun b hb => hp b (by simp [hb]), filter_rows_insert (hp a (by simp))]

/-! ## Tables from rows -/

theorem rows_foldl_insert (rows : List α) (t : Table key)
    (h : ((t.rows ++ rows).map key).Nodup) : (rows.foldl insert t).rows = t.rows ++ rows := by
  induction rows generalizing t with
  | nil => simp
  | cons a rows ih =>
    have hfresh : key a ∉ t.keys := by
      rw [List.map_append, List.map_cons, List.nodup_append] at h
      intro hmem
      exact h.2.2 _ hmem _ (by simp) rfl
    have hrows := rows_insert_of_not_mem t a hfresh
    rw [List.foldl_cons, ih, hrows, List.append_assoc, List.singleton_append]
    rw [hrows, List.append_assoc, List.singleton_append]
    exact h

theorem rows_ofList {rows : List α} (h : (rows.map key).Nodup) :
    (ofList rows : Table key).rows = rows := by
  have hempty : (empty : Table key).rows = [] := rfl
  rw [ofList, rows_foldl_insert rows empty (by rwa [hempty]), hempty, List.nil_append]

end SingleWriter.Table
