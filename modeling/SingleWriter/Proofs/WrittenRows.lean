import SingleWriter.Proofs.Comments
import SingleWriter.Proofs.Replacements
import SingleWriter.Sql.Row
import Mathlib.Data.List.Nodup

/-!
# Rows that were written are read back

What a replacing statement says about a server or a user, put under the names of its columns
in any letter case and in any order, is read as the row that was written. The comment gives
the annotation back, a numeral its number, a bit its flag, and `NULL` the absent text.
-/

set_option autoImplicit false

namespace SingleWriter

/-! ## Cells under names -/

namespace Sql.Row

theorem put_of_not_mem {r : Row} {name : String} (h : name ∉ r.map Prod.fst)
    (cell : Option String) : r.put name cell = r ++ [(name, cell)] := by
  have hany : r.any (·.1 = name) = false := by
    rw [List.any_eq_false]
    intro c hc heq
    exact h (List.mem_map.2 ⟨c, hc, of_decide_eq_true heq⟩)
  rw [put, hany, if_neg Bool.false_ne_true]

/-- A row of cells with distinct names is these cells. -/
theorem ofCells_of_nodup {cells : List (String × Option String)}
    (h : (cells.map Prod.fst).Nodup) : ofCells cells = cells := by
  have hfold : ∀ r : Row, ((r ++ cells).map Prod.fst).Nodup →
      cells.foldl (fun r c => r.put c.1 c.2) r = r ++ cells := by
    clear h
    induction cells with
    | nil => simp
    | cons c cells ih =>
      intro r hr
      have hc : c.1 ∉ r.map Prod.fst := by
        rw [List.map_append, List.nodup_append] at hr
        intro hmem
        exact hr.2.2 c.1 hmem c.1 (by simp) rfl
      rw [List.foldl_cons, put_of_not_mem hc, ih _ (by simpa using hr)]
      simp
  exact hfold [] (by simpa using h)

theorem column?_of_mem {r : Row} (h : (r.map fun c => Text.lowered c.1).Nodup)
    {name column : String} {cell : Option String} (hmem : (name, cell) ∈ r)
    (hname : Text.lowered name = Text.lowered column) : r.column? column = cell := by
  induction r with
  | nil => cases hmem
  | cons c r ih =>
    obtain ⟨hc, hr⟩ := List.nodup_cons.1 h
    rcases List.mem_cons.1 hmem with rfl | hmem
    · rw [column?, List.find?_cons_of_pos (by simpa [Text.sameUpToCase] using hname)]
      rfl
    · have hne : Text.lowered c.1 ≠ Text.lowered column := by
        intro heq
        exact hc (List.mem_map.2 ⟨_, hmem, hname.trans heq.symm⟩)
      rw [column?, List.find?_cons_of_neg (by simpa [Text.sameUpToCase] using hne)]
      exact ih hr hmem

/-- A column is found under any name that is its own up to case, in any place of the row. -/
theorem column?_of_perm {names columns : List String} {cells : List (Option String)} {r : Row}
    (hcolumns : (columns.map Text.lowered).Nodup) (hlength : columns.length = cells.length)
    (hnames : names.map Text.lowered = columns.map Text.lowered)
    (hr : r.Perm (ofCells (names.zip cells))) :
    ∀ c ∈ columns.zip cells, r.column? c.1 = c.2 := by
  -- The names are distinct up to case, as the columns are, so each cell has its place.
  have hle : names.length ≤ cells.length := by
    have heq : names.length = columns.length := by simpa using congrArg List.length hnames
    omega
  have hfst : (names.zip cells).map Prod.fst = names := List.map_fst_zip hle
  have hnodup : (names.map Text.lowered).Nodup := hnames ▸ hcolumns
  have hcells : ofCells (names.zip cells) = names.zip cells := by
    apply ofCells_of_nodup
    rw [hfst]
    exact hnodup.of_map
  have hlowered : ((names.zip cells).map fun c => Text.lowered c.1).Nodup := by
    rw [← hfst, List.map_map] at hnodup
    exact hnodup
  have hrows : (r.map fun c => Text.lowered c.1).Nodup :=
    ((hcells ▸ hr).map _).nodup_iff.2 hlowered
  rintro ⟨column, cell⟩ hmem
  have hmapped : (Text.lowered column, cell) ∈ (names.map Text.lowered).zip cells := by
    rw [hnames, List.zip_map_left]
    exact List.mem_map.2 ⟨_, hmem, rfl⟩
  rw [List.zip_map_left] at hmapped
  obtain ⟨⟨name, cell'⟩, hmem', heq⟩ := List.mem_map.1 hmapped
  obtain ⟨hname, rfl⟩ := Prod.mk.inj heq
  exact column?_of_mem hrows ((hcells ▸ hr).mem_iff.2 hmem') hname

theorem text_of_column {r : Row} {name s : String} (h : r.column? name = some s) :
    r.text name = .ok s := by
  rw [text, h]

theorem number_of_text {α : Type} {read : List Char → Option α} {r : Row} {name : String}
    {n : Nat} {a : α} (h : r.column? name = some (Text.decimalText n))
    (ha : read (Text.decimal n) = some a) : number read r name = .ok a := by
  rw [number, text_of_column h]
  simp [bind, Except.bind, Text.decimalText, Text.trim_decimal, ha]

theorem word32_of_text {r : Row} {name : String} {n : UInt32}
    (h : r.column? name = some (Text.decimalText n.toNat)) : r.word32 name = .ok n :=
  number_of_text h (Text.word32?_decimal n)

theorem flag_of_bit {r : Row} {name : String} {b : Bool}
    (h : r.column? name = (Value.bit b).cell) : r.flag name = .ok b := by
  rw [flag, number_of_text h (a := if b then 1 else 0) (by cases b <;> decide)]
  cases b <;> rfl

theorem statusText_name (s : Status) : statusText s.name = .ok s := by
  cases s <;> decide

/-! ## Servers and users -/

theorem cell_ofOption (s : Option String) : (Value.ofOption s).cell = s := by
  cases s <;> rfl

def Holds (r : Row) (columns : List String) (vs : List Value) : Prop :=
  ∀ c ∈ columns.zip (vs.map Value.cell), r.column? c.1 = c.2

theorem toBackend_of_holds {r : Row} {b : Backend}
    (h : r.Holds serverColumns (serverValues b)) : r.toBackend = .ok b := by
  simp only [Holds, serverColumns, serverValues, List.map_cons, List.map_nil, List.zip_cons_cons,
    List.zip_nil_right, List.forall_mem_cons] at h
  obtain ⟨hgroup, hhost, hport, hstatus, hweight, hcompression, hconnections, hlag, hssl,
    hlatency, hcomment, -⟩ := h
  have hannotation : Annotation.ofComment (r.column? "comment") = b.annotation := by
    rw [hcomment, cell_ofOption, Annotation.ofComment_toComment]
  rw [toBackend, text_of_column hhost, text_of_column hstatus, word32_of_text hgroup,
    number_of_text hport (Text.word16?_decimal b.addr.port), word32_of_text hweight,
    word32_of_text hcompression, word32_of_text hconnections, word32_of_text hlag,
    flag_of_bit hssl, word32_of_text hlatency, hannotation]
  simp only [bind, Except.bind, statusText_name]
  rfl

theorem toAccount_of_holds {r : Row} {a : Account}
    (h : r.Holds userColumns (userValues a)) : r.toAccount = .ok a := by
  simp only [Holds, userColumns, userValues, List.map_cons, List.map_nil, List.zip_cons_cons,
    List.zip_nil_right, List.forall_mem_cons] at h
  obtain ⟨hname, hpassword, hactive, hssl, hgroup, hschema, hlocked, hpersistent, hforward,
    hbackend, hfrontend, hconnections, -⟩ := h
  have hdefault : r.column? "default_schema" = a.defaultSchema := by
    rw [hschema, cell_ofOption]
  rw [toAccount, text_of_column hname, flag_of_bit hactive, flag_of_bit hssl,
    word32_of_text hgroup, flag_of_bit hlocked, flag_of_bit hpersistent, flag_of_bit hforward,
    flag_of_bit hbackend, flag_of_bit hfrontend, word32_of_text hconnections, hpassword, hdefault]
  rfl

end Row

/-- Under any names that are the columns up to case, a row of the cells in any order is read
as `a`. -/
def ReadBack {α : Type} (read : Row → Except Row.Fault α) (columns : List String)
    (cells : List (Option String)) (a : α) : Prop :=
  ∀ names : List String, names.map Text.lowered = columns.map Text.lowered →
    ∀ r : Row, r.Perm (Row.ofCells (names.zip cells)) → read r = .ok a

theorem readBack_of_holds {α : Type} {read : Row → Except Row.Fault α} {columns : List String}
    {vs : List Value} {a : α} (hcolumns : (columns.map Text.lowered).Nodup)
    (hlength : columns.length = vs.length)
    (hread : ∀ r : Row, r.Holds columns vs → read r = .ok a) :
    ReadBack read columns (vs.map Value.cell) a := by
  intro names hnames r hr
  exact hread r (Row.column?_of_perm hcolumns (by simpa using hlength) hnames hr)

/-- A written statement says, under the columns of its table, the cells that are read as the
row it was written for. -/
theorem written_rows_read_back (b : Backend) (a : Account) :
    (∃ cells, Replacement.read (replaceServer b).text =
        some ⟨"REPLACE INTO mysql_servers ", serverColumns, cells⟩ ∧
      ReadBack Row.toBackend serverColumns cells b) ∧
    ∃ cells, Replacement.read (replaceUser a).text =
        some ⟨"REPLACE INTO mysql_users ", userColumns, cells⟩ ∧
      ReadBack Row.toAccount userColumns cells a := by
  constructor
  · have hread : Replacement.read (replaceServer b).text = _ :=
      read_replaceInto (by decide) isName_serverColumns (by decide) (by simp [serverValues])
    exact ⟨_, hread, readBack_of_holds (by decide) rfl fun _ => Row.toBackend_of_holds⟩
  · have hread : Replacement.read (replaceUser a).text = _ :=
      read_replaceInto (by decide) isName_userColumns (by decide) (by simp [userValues])
    exact ⟨_, hread, readBack_of_holds (by decide) rfl fun _ => Row.toAccount_of_holds⟩

/-- A name with a quote in it, no schema, and a row from the last column to the first under
raised names. -/
theorem written_rows_read_back_of_raisedNames :
    let a : Account := { username := "o'hara", password := "", defaultSchema := none }
    ∃ cells, Replacement.read (replaceUser a).text =
        some ⟨"REPLACE INTO mysql_users ", userColumns, cells⟩ ∧
      Row.toAccount (Row.ofCells ((userColumns.map Text.raised).zip cells)).reverse = .ok a := by
  intro a
  obtain ⟨cells, hread, hback⟩ :=
    (written_rows_read_back { hostgroup := 10, addr := ⟨"db", 3306⟩ } a).2
  exact ⟨cells, hread, hback _ (by decide +kernel) _ (List.reverse_perm _)⟩

end SingleWriter.Sql
