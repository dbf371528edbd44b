/-!
# Ordered tables with unique keys

A table is a list of rows in which no two rows have the same key. Inserting a row
replaces the row with its key in place, or appends it; changing a row keeps its key.
The look-up `get?` is the view through which the other operations are described.
-/

set_option autoImplicit false

namespace SingleWriter

structure Table {α κ : Type} (key : α → κ) where
  rows : List α
  nodup : (rows.map key).Nodup := by simp

namespace Table

variable {α κ : Type} {key : α → κ}

theorem ext_rows {s t : Table key} (h : s.rows = t.rows) : s = t := by
  cases s
  cases t
  cases h
  rfl

def empty : Table key := ⟨[], by simp⟩

instance : Inhabited (Table key) := ⟨empty⟩

def size (t : Table key) : Nat := t.rows.length

def keys (t : Table key) : List κ := t.rows.map key

def filter (p : α → Bool) (t : Table key) : Table key where
  rows := t.rows.filter p
  nodup := (List.Sublist.map key List.filter_sublist).nodup t.nodup

/-- Every row becomes its image under `f`, which keeps keys. -/
def mapRows (t : Table key) (f : α → α) (hf : ∀ a, key (f a) = key a := by intro _; rfl) :
    Table key where
  rows := t.rows.map f
  nodup := by
    rw [List.map_map, show key ∘ f = key from funext hf]
    exact t.nodup

theorem keys_mapRows (t : Table key) (f : α → α) (hf : ∀ a, key (f a) = key a) :
    (t.mapRows f hf).keys = t.keys := by
  simp only [keys, mapRows, List.map_map, show key ∘ f = key from funext hf]

variable [DecidableEq κ]

def get? (t : Table key) (k : κ) : Option α := t.rows.find? fun a => key a = k

def contains (t : Table key) (k : κ) : Bool := t.rows.any fun a => key a = k

def changeRows (key : α → κ) (k : κ) (f : α → α) (rows : List α) : List α :=
  rows.map fun a => if key a = k then f a else a

theorem keys_changeRows (k : κ) (f : α → α) (hf : ∀ a, key (f a) = key a) (rows : List α) :
    (changeRows key k f rows).map key = rows.map key := by
  simp only [changeRows, List.map_map]
  apply List.map_congr_left
  intro a _
  simp only [Function.comp_apply]
  split
  · exact hf a
  · rfl

/-- The row with key `k`, if there is one, becomes its image under `f`. -/
def change (t : Table key) (k : κ) (f : α → α) (hf : ∀ a, key (f a) = key a := by intro _; rfl) :
    Table key where
  rows := changeRows key k f t.rows
  nodup := by rw [keys_changeRows k f hf]; exact t.nodup

def replaceRows (key : α → κ) (a : α) (rows : List α) : List α :=
  rows.map fun b => if key b = key a then a else b

theorem keys_replaceRows (a : α) (rows : List α) :
    (replaceRows key a rows).map key = rows.map key := by
  simp only [replaceRows, List.map_map]
  apply List.map_congr_left
  intro b _
  simp only [Function.comp_apply]
  split
  · rename_i h
    exact h.symm
  · rfl

/-- The row with the key of `a` becomes `a`; where there is none, `a` is added at the end. -/
def insert (t : Table key) (a : α) : Table key where
  rows := if t.contains (key a) then replaceRows key a t.rows else t.rows ++ [a]
  nodup := by
    split
    · rw [keys_replaceRows]
      exact t.nodup
    · rename_i h
      rw [List.map_append, List.nodup_append]
      refine ⟨t.nodup, by simp, ?_⟩
      intro k hk l hl
      simp only [List.map_cons, List.map_nil, List.mem_singleton] at hl
      subst hl
      intro he
      subst he
      obtain ⟨b, hb, hkey⟩ := List.mem_map.1 hk
      exact h (List.any_eq_true.2 ⟨b, hb, by simp [hkey]⟩)

def ofList (rows : List α) : Table key := rows.foldl insert empty

theorem contains_eq_isSome (t : Table key) (k : κ) : t.contains k = (t.get? k).isSome := by
  rw [Bool.eq_iff_iff]
  simp [contains, get?, List.find?_isSome]

theorem contains_iff {t : Table key} {k : κ} : t.contains k = true ↔ k ∈ t.keys := by
  simp [contains, keys]

theorem key_of_get? {t : Table key} {k : κ} {a : α} (h : t.get? k = some a) : key a = k := by
  simpa using List.find?_some h

theorem mem_of_get? {t : Table key} {k : κ} {a : α} (h : t.get? k = some a) : a ∈ t.rows :=
  List.mem_of_find?_eq_some h

theorem keys_change (t : Table key) (k : κ) (f : α → α) (hf : ∀ a, key (f a) = key a) :
    (t.change k f hf).keys = t.keys := keys_changeRows k f hf t.rows

theorem keys_insert (t : Table key) (a : α) :
    (t.insert a).keys = if t.contains (key a) then t.keys else t.keys ++ [key a] := by
  simp only [keys, insert]
  split
  · exact keys_replaceRows a t.rows
  · simp

end Table

end SingleWriter
