import SingleWriter.Proofs.Tables
import SingleWriter.BackendSet
import Mathlib.Data.List.Induction

/-!
# Collected rows

A table collected from a list has one row for each key of the list. Its keys stand in the
order of their first occurrences, and at each of them stands the last row with that key. A
row that is inserted later takes the place of the row with its key, or comes last.
-/

set_option autoImplicit false

namespace SingleWriter

namespace Table

variable {α κ : Type} {key : α → κ} [DecidableEq κ]

theorem ofList_concat (rows : List α) (a : α) :
    (ofList (rows ++ [a]) : Table key) = (ofList rows).insert a := by
  simp [ofList]

/-- A key has its place from its first occurrence on. -/
theorem keys_ofList (rows : List α) :
    (ofList rows : Table key).keys = (rows.map key).eraseDups := by
  induction rows using List.reverseRecOn with
  | nil => rfl
  | append_singleton rows a ih =>
    have hmem : key a ∈ (ofList rows : Table key).keys ↔ key a ∈ rows.map key := by
      rw [ih, List.mem_eraseDups]
    rw [ofList_concat, keys_insert, List.map_append, List.eraseDups_append, ← ih]
    by_cases h : key a ∈ rows.map key
    · have hold : [key a].removeAll (rows.map key) = [] := by
        simpa [List.removeAll] using h
      rw [if_pos (contains_iff.2 (hmem.2 h)), List.map_singleton, hold, List.eraseDups_nil,
        List.append_nil]
    · have hnew : [key a].removeAll (rows.map key) = [key a] := by
        simpa [List.removeAll] using h
      rw [if_neg (mt contains_iff.1 (mt hmem.1 h)), List.map_singleton, hnew, List.eraseDups_cons,
        List.filter_nil, List.eraseDups_nil]

/-- Of the rows with a key the last one stays. -/
theorem get?_ofList (rows : List α) (k : κ) :
    (ofList rows : Table key).get? k = rows.findRev? fun a => key a = k := by
  rw [ofList, get?_foldl_insert, List.findRev?_eq_find?_reverse]
  exact Option.or_none

theorem rows_ofList_eq_filterMap (rows : List α) :
    (ofList rows : Table key).rows =
      (rows.map key).eraseDups.filterMap fun k => rows.findRev? fun a => key a = k := by
  rw [rows_eq_filterMap, keys_ofList, show get? (ofList rows : Table key) = _ from
    funext (get?_ofList rows)]

/-- Rows of one table are collected as they are, in whatever order and however often each of
them is listed. -/
theorem mem_rows_ofList {t : Table key} {rows : List α} (h : ∀ a ∈ rows, a ∈ t.rows) {a : α} :
    a ∈ (ofList rows : Table key).rows ↔ a ∈ rows := by
  constructor
  · intro ha
    have hlast := get?_key ha
    rw [get?_ofList, List.findRev?_eq_find?_reverse] at hlast
    exact List.mem_reverse.1 (List.mem_of_find?_eq_some hlast)
  · intro ha
    have hkey : key a ∈ (ofList rows : Table key).keys := by
      rw [keys_ofList, List.mem_eraseDups]
      exact List.mem_map_of_mem ha
    obtain ⟨b, hb⟩ := mem_keys_iff.1 hkey
    have hlast := hb
    rw [get?_ofList, List.findRev?_eq_find?_reverse] at hlast
    have hmem : b ∈ rows := List.mem_reverse.1 (List.mem_of_find?_eq_some hlast)
    rw [eq_of_mem_of_key (h a ha) (h b hmem) (key_of_get? hb).symm]
    exact mem_of_get? hb

theorem replaceRows_of_not_mem {a : α} {rows : List α} (h : key a ∉ rows.map key) :
    replaceRows key a rows = rows := by
  unfold replaceRows
  conv_rhs => rw [← List.map_id rows]
  apply List.map_congr_left
  intro b hb
  apply if_neg
  intro hkey
  exact h (hkey ▸ List.mem_map_of_mem hb)

/-- A row takes the place of the one with its key, or comes last. -/
theorem rows_insert_cases (t : Table key) (a : α) :
    (∃ before old after, t.rows = before ++ old :: after ∧ key old = key a ∧
      (t.insert a).rows = before ++ a :: after) ∨
    (key a ∉ t.keys ∧ (t.insert a).rows = t.rows ++ [a]) := by
  by_cases h : key a ∈ t.keys
  · left
    obtain ⟨old, hold, hkey⟩ := List.mem_map.1 h
    obtain ⟨before, after, hrows⟩ := List.append_of_mem hold
    have hnodup := t.nodup
    rw [hrows, List.map_append, List.map_cons, hkey, List.nodup_middle, List.nodup_cons,
      List.mem_append, not_or] at hnodup
    obtain ⟨⟨hbefore, hafter⟩, -⟩ := hnodup
    refine ⟨before, old, after, hrows, hkey, ?_⟩
    have hplace : replaceRows key a (old :: after) = a :: replaceRows key a after := by
      simp [replaceRows, hkey]
    have hsplit : replaceRows key a (before ++ old :: after) =
        replaceRows key a before ++ replaceRows key a (old :: after) := List.map_append
    rw [rows_insert_of_mem t a h, hrows, hsplit, hplace, replaceRows_of_not_mem hbefore,
      replaceRows_of_not_mem hafter]
  · exact .inr ⟨h, rows_insert_of_not_mem t a h⟩

end Table

namespace BackendSet

/-- A set of backends is an ordered map. Collected from a list it has one row for each key
of the list, in the order of their first occurrences, and that row is the last one with the
key; looking it up compares hostgroup, host and port. Whatever set a row is inserted into,
it takes the place of the row with its key or comes last, the look-up of no other key
changes, and the keys stay distinct. -/
theorem ordered_map (rows : List Backend) :
    ((Table.ofList rows : BackendSet).keys = (rows.map Backend.key).eraseDups ∧
      (Table.ofList rows : BackendSet).rows =
        (rows.map Backend.key).eraseDups.filterMap fun k => rows.findRev? fun b => b.key = k) ∧
    (∀ k : Backend.Key,
      (Table.ofList rows : BackendSet).get? k = rows.findRev? fun b => b.key = k) ∧
    (∀ (g : UInt32) (a : Addr), find? (Table.ofList rows) g a =
      rows.findRev? fun b => b.hostgroup = g ∧ b.addr.host = a.host ∧ b.addr.port = a.port) ∧
    ∀ (set : BackendSet) (b : Backend),
      ((∃ before old after, set.rows = before ++ old :: after ∧ old.key = b.key ∧
          (set.insert b).rows = before ++ b :: after) ∨
        (b.key ∉ set.keys ∧ (set.insert b).rows = set.rows ++ [b])) ∧
      (∀ k, (set.insert b).get? k = if b.key = k then some b else set.get? k) ∧
      (set.insert b).keys.Nodup := by
  refine ⟨⟨Table.keys_ofList rows, Table.rows_ofList_eq_filterMap rows⟩, Table.get?_ofList rows,
    ?_, ?_⟩
  · intro g a
    have hparts : ∀ b : Backend,
        b.key = ⟨g, a⟩ ↔ b.hostgroup = g ∧ b.addr.host = a.host ∧ b.addr.port = a.port := by
      intro b
      cases a
      cases hb : b.addr
      simp [Backend.key, hb]
    rw [find?, Table.get?_ofList]
    simp only [hparts]
  · intro set b
    exact ⟨Table.rows_insert_cases set b, Table.get?_insert set b, (set.insert b).nodup⟩

end BackendSet

end SingleWriter
