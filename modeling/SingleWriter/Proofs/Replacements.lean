import SingleWriter.Proofs.Statements

/-!
# Replacing statements are read back

A replacing statement is read by the rule for literals as its words, its columns and one cell
for each value: what a literal holds, the digits of a number, or nothing for `NULL`. Commas,
brackets and blanks inside of literals have no part in where one item ends.
-/

set_option autoImplicit false

namespace SingleWriter.Sql

/-! ## Replacing statements -/

/-- What a replacing statement says: the words before the columns, the columns, and for each
value its text, or nothing. -/
structure Replacement where
  command : String
  columns : List String
  cells : List (Option String)
  deriving DecidableEq

def spelled? : List Token → Option String
  | [] => some ""
  | .char c :: ts => (spelled? ts).map (String.singleton c ++ ·)
  | .literal _ :: _ => none

def upTo (c : Char) : List Token → Option (List Token × List Token)
  | [] => none
  | t :: ts =>
      if t = .char c then some ([], ts)
    else (upTo c ts).map fun (before, after) => (t :: before, after)

def items (ts : List Token) : List (List Token) :=
  (ts.splitOn (.char ',')).map (·.dropWhile (· = .char ' '))

def wordCell? (s : String) : Option (Option String) :=
  if s = "NULL" then some none
  else if s ≠ "" ∧ s.toList.all Char.isDigit then some (some s)
  else none

def cell? : List Token → Option (Option String)
  | [.literal v] => some (some v)
  | ts => (spelled? ts).bind wordCell?

def Replacement.read (text : String) : Option Replacement := do
  let ts ← Token.readText text
  let (command, ts) ← upTo '(' ts
  let (columns, ts) ← upTo ')' ts
  let (between, ts) ← upTo '(' ts
  let (values, ts) ← upTo ')' ts
  if spelled? between = some " VALUES " ∧ ts = [] then
    return ⟨← spelled? command, ← (items columns).mapM spelled?, ← (items values).mapM cell?⟩
  else none

example : Replacement.read "REPLACE INTO t (a, b, c) VALUES ('it''s, (', 10, NULL)" =
    some ⟨"REPLACE INTO t ", ["a", "b", "c"], [some "it's, (", some "10", none]⟩ := by
  decide +kernel

def Value.cell : Value → Option String
  | .number n => some (Text.decimalText n)
  | .text s => some s
  | .null => none

def Token.ofText (s : String) : List Token := s.toList.map .char

theorem spelled?_ofText (s : String) : spelled? (Token.ofText s) = some s := by
  have hchars : ∀ cs : List Char, spelled? (cs.map .char) = some (String.ofList cs) := by
    intro cs
    induction cs with
    | nil => rfl
    | cons c cs ih =>
      rw [List.map_cons, spelled?, ih, Option.map_some, String.ofList_cons]
  rw [Token.ofText, hchars, String.ofList_toList]

theorem upTo_append {c : Char} {before : List Token} (h : .char c ∉ before) (after : List Token) :
    upTo c (before ++ .char c :: after) = some (before, after) := by
  induction before with
  | nil => rw [List.nil_append, upTo, if_pos rfl]
  | cons t ts ih =>
    obtain ⟨ht, hts⟩ : .char c ≠ t ∧ .char c ∉ ts := by simpa using h
    rw [List.cons_append, upTo, if_neg (Ne.symm ht), ih hts]
    rfl

/-! ## Lists with commas -/

def separator : List Token := [.char ',', .char ' ']

structure IsItem (ts : List Token) : Prop where
  comma : .char ',' ∉ ts
  bracket : .char ')' ∉ ts
  blank : ts.head? ≠ some (.char ' ')

theorem not_mem_intercalate {t : Token} {xs : List (List Token)} (hsep : t ∉ separator)
    (h : ∀ x ∈ xs, t ∉ x) : t ∉ separator.intercalate xs := by
  induction xs with
  | nil => simp
  | cons x xs ih =>
    cases xs with
    | nil => simpa using h
    | cons y ys =>
      rw [List.intercalate_cons_cons, List.mem_append, List.mem_append]
      rintro ((hx | hs) | hrest)
      · exact h x (by simp) hx
      · exact hsep hs
      · exact ih (fun z hz => h z (by simp [hz])) hrest

theorem IsItem.dropWhile_blank {ts : List Token} (h : IsItem ts) :
    ts.dropWhile (· = .char ' ') = ts := by
  cases ts with
  | nil => rfl
  | cons t ts =>
    have ht : t ≠ .char ' ' := by simpa using h.blank
    simp [ht]

theorem items_append {x : List Token} (h : IsItem x) (rest : List Token) :
    items (x ++ .char ',' :: rest) = x :: items rest := by
  rw [items, List.splitOn_append_cons_self_of_not_mem h.comma, List.map_cons, h.dropWhile_blank]
  rfl

theorem items_blank (ts : List Token) : items (.char ' ' :: ts) = items ts := by
  rw [items, items, List.splitOn_cons_eq_if_modifyHead, if_neg (by decide)]
  cases h : ts.splitOn (.char ',') with
  | nil => exact absurd h (List.splitOn_ne_nil _ _)
  | cons x xs => simp

theorem items_of_item {x : List Token} (h : IsItem x) : items x = [x] := by
  rw [items, List.splitOn_eq_singleton h.comma, List.map_singleton, h.dropWhile_blank]

theorem items_intercalate {x : List Token} {xs : List (List Token)}
    (h : ∀ y ∈ x :: xs, IsItem y) :
    items (separator.intercalate (x :: xs)) = x :: xs := by
  induction xs generalizing x with
  | nil => rw [List.intercalate_singleton, items_of_item (h x (by simp))]
  | cons y ys ih =>
    rw [List.intercalate_cons_cons, List.append_assoc]
    change items (x ++ .char ',' :: .char ' ' :: separator.intercalate (y :: ys)) = _
    rw [items_append (h x (by simp)), items_blank, ih fun z hz => h z (by simp [hz])]

theorem items_map {α : Type} {f : α → List Token} {as : List α} (hne : as ≠ [])
    (h : ∀ a ∈ as, IsItem (f a)) : items (separator.intercalate (as.map f)) = as.map f := by
  cases as with
  | nil => exact absurd rfl hne
  | cons a as =>
    apply items_intercalate
    rw [← List.map_cons]
    simpa using h

theorem bracket_not_mem {α : Type} {f : α → List Token} {as : List α}
    (h : ∀ a ∈ as, IsItem (f a)) : .char ')' ∉ separator.intercalate (as.map f) := by
  apply not_mem_intercalate (by decide)
  intro x hx
  obtain ⟨a, ha, rfl⟩ := List.mem_map.1 hx
  exact (h a ha).bracket

theorem mapM_map {α β γ : Type} {f : α → β} {g : β → Option γ} {k : α → γ}
    (h : ∀ a, g (f a) = some (k a)) (as : List α) : (as.map f).mapM g = some (as.map k) := by
  induction as with
  | nil => rfl
  | cons a as ih => rw [List.map_cons, List.mapM_cons, h, ih]; rfl

/-! ## What is written is read -/

theorem ofText_append (s t : String) :
    Token.ofText (s ++ t) = Token.ofText s ++ Token.ofText t := by
  simp [Token.ofText]

theorem mem_ofText {s : String} {c : Char} : .char c ∈ Token.ofText s ↔ c ∈ s.toList := by
  simp [Token.ofText]

theorem IsName.isItem {name : String} (h : IsName name) : IsItem (Token.ofText name) where
  comma hmem := h.ne (mem_ofText.1 hmem) (by decide) rfl
  bracket hmem := h.ne (mem_ofText.1 hmem) (by decide) rfl
  blank := by
    intro hhead
    exact h.ne (mem_ofText.1 (List.mem_of_head? hhead)) (by decide) rfl

theorem isItem_decimalText (n : Nat) : IsItem (Token.ofText (Text.decimalText n)) := by
  have hdigit : ∀ c, .char c ∈ Token.ofText (Text.decimalText n) → c.isDigit = true := by
    intro c hc
    exact Text.decimal_isDigit (by simpa [Text.decimalText] using mem_ofText.1 hc)
  constructor
  · intro h
    exact absurd (hdigit _ h) (by decide)
  · intro h
    exact absurd (hdigit _ h) (by decide)
  · intro h
    exact absurd (hdigit _ (List.mem_of_head? h)) (by decide)

theorem isItem_part (v : Value) : IsItem v.part.tokens := by
  cases v with
  | number n => exact isItem_decimalText n
  | text s => constructor <;> simp [Value.part, Part.tokens]
  | null => exact ⟨by decide, by decide, by decide⟩

theorem cell?_ofText (s : String) : cell? (Token.ofText s) = wordCell? s := by
  rw [cell?, spelled?_ofText, Option.bind_some]
  intro v h
  have hmem : Token.literal v ∈ Token.ofText s := by simp [h]
  simp [Token.ofText] at hmem

theorem wordCell?_decimalText (n : Nat) :
    wordCell? (Text.decimalText n) = some (some (Text.decimalText n)) := by
  have hdigits : (Text.decimalText n).toList.all Char.isDigit = true := by
    rw [Text.decimalText, String.toList_ofList, List.all_eq_true]
    exact fun _ => Text.decimal_isDigit
  have hnull : Text.decimalText n ≠ "NULL" := by
    intro h
    rw [h] at hdigits
    exact absurd hdigits (by decide)
  rw [wordCell?, if_neg hnull, if_pos ⟨(isFixed_decimalText n).1, hdigits⟩]

theorem cell?_part (v : Value) : cell? v.part.tokens = some v.cell := by
  cases v with
  | number n => exact (cell?_ofText _).trans (wordCell?_decimalText n)
  | text s => rfl
  | null => decide

theorem tokens_columnList (columns : List String) :
    Token.ofText (columnList columns) = separator.intercalate (columns.map Token.ofText) := by
  induction columns with
  | nil => rfl
  | cons c columns ih =>
    cases columns with
    | nil => simp [columnList]
    | cons d columns =>
      rw [columnList, String.intercalate_cons_cons, ofText_append, ofText_append, ← columnList, ih,
        show Token.ofText ", " = separator by decide]
      exact List.intercalate_cons_cons.symm

theorem tokens_commaSeparated (vs : List Value) :
    Statement.tokens (commaSeparated vs) =
      separator.intercalate (vs.map fun v => v.part.tokens) := by
  induction vs using commaSeparated.induct with
  | case1 => rfl
  | case2 v => simp [commaSeparated, Statement.tokens]
  | case3 v w vs ih =>
    rw [commaSeparated, Statement.tokens, List.flatMap_cons, List.flatMap_cons, ← Statement.tokens,
      ih, ← List.append_assoc, show (Part.plain ", ").tokens = separator by decide]
    exact List.intercalate_cons_cons.symm

theorem tokens_replaceInto (table : String) (columns : List String) (vs : List Value) :
    (replaceInto table columns vs).tokens =
      Token.ofText ("REPLACE INTO " ++ table ++ " ") ++ .char '(' ::
        (separator.intercalate (columns.map Token.ofText) ++ .char ')' ::
          (Token.ofText " VALUES " ++ .char '(' ::
            (separator.intercalate (vs.map fun v => v.part.tokens) ++ [.char ')']))) := by
  have hopen : Token.ofText " (" = Token.ofText " " ++ [.char '('] := by decide
  have hbetween : Token.ofText ") VALUES (" =
      .char ')' :: (Token.ofText " VALUES " ++ [.char '(']) := by decide
  have hclose : Statement.tokens [.plain ")"] = [.char ')'] := by decide
  have hhead : (Part.plain s!"REPLACE INTO {table} ({columnList columns}) VALUES (").tokens =
      Token.ofText ("REPLACE INTO " ++ table ++ " (" ++ columnList columns ++ ") VALUES (") := rfl
  rw [replaceInto, Statement.tokens, List.flatMap_cons, ← Statement.tokens,
    Statement.tokens_append, tokens_commaSeparated, hclose, hhead, ← tokens_columnList]
  simp only [ofText_append, hopen, hbetween, List.append_assoc, List.cons_append, List.nil_append]

/-- A replacing statement is read as its columns and the cells of its values. -/
theorem read_replaceInto {table : String} {columns : List String} {vs : List Value}
    (ht : IsName table) (hc : ∀ d ∈ columns, IsName d) (hcne : columns ≠ []) (hvne : vs ≠ []) :
    Replacement.read (Statement.text (replaceInto table columns vs)) =
      some ⟨"REPLACE INTO " ++ table ++ " ", columns, vs.map Value.cell⟩ := by
  have hcommand : Token.char '(' ∉ Token.ofText ("REPLACE INTO " ++ table ++ " ") := by
    rw [mem_ofText, String.toList_append, String.toList_append]
    simp only [List.mem_append, not_or]
    exact ⟨⟨by decide, fun h => ht.ne h (by decide) rfl⟩, by decide⟩
  have hbetween : Token.char '(' ∉ Token.ofText " VALUES " := by decide
  have hnames : ∀ d ∈ columns, IsItem (Token.ofText d) := fun d hd => (hc d hd).isItem
  have hparts : ∀ v ∈ vs, IsItem v.part.tokens := fun v _ => isItem_part v
  rw [Replacement.read, Statement.readText_text (isSeparated_replaceInto ht hc vs),
    tokens_replaceInto]
  simp only [Option.bind_eq_bind, Option.bind_some, upTo_append hcommand,
    upTo_append (bracket_not_mem hnames), upTo_append hbetween,
    upTo_append (bracket_not_mem hparts), spelled?_ofText, items_map hcne hnames,
    items_map hvne hparts, mapM_map spelled?_ofText, mapM_map cell?_part, and_self, if_true]
  simp

end SingleWriter.Sql
