import SingleWriter.Sql.Statement

/-!
# Statements read by the rule for literals

The admin interface reads a statement from left to right. A literal starts at a single quote
and ends at the next quote that is not doubled; a doubled quote stands for one, and nothing
else is special inside. A statement whose literals are kept apart by plain text without quotes
is read as what it was put together from, whatever its literals hold, and the text around the
literals is the statement with a hole in the place of each of them.
-/

set_option autoImplicit false

namespace SingleWriter.Sql

/-! ## The rule -/

inductive Token where
  /-- A character outside of the literals. -/
  | char (c : Char)
  | literal (value : String)
  deriving DecidableEq

mutual

def readPlain : List Char → Option (List Token)
  | [] => some []
  | c :: cs =>
    if c = '\'' then (readLiteral cs).map fun (value, ts) => .literal (String.ofList value) :: ts
    else (readPlain cs).map (.char c :: ·)

/-- Reads on from inside a literal: the rest of its value, and what follows the literal. -/
def readLiteral : List Char → Option (List Char × List Token)
  | [] => none
  | '\'' :: '\'' :: cs => (readLiteral cs).map fun (value, ts) => ('\'' :: value, ts)
  | '\'' :: cs => (readPlain cs).map fun ts => ([], ts)
  | c :: cs => (readLiteral cs).map fun (value, ts) => (c :: value, ts)

end

def Token.readText (text : String) : Option (List Token) := readPlain text.toList

example : Token.readText "a='it''s\\'" =
    some [.char 'a', .char '=', .literal "it's\\"] := by decide

def literalValues : List Token → List String
  | [] => []
  | .char _ :: ts => literalValues ts
  | .literal v :: ts => v :: literalValues ts

/-- The text around the literals, with a hole in the place of each of them. -/
def frame : List Token → List (Option Char)
  | [] => []
  | .char c :: ts => some c :: frame ts
  | .literal _ :: ts => none :: frame ts

/-- A frame written down, with a question mark for each hole. -/
def frameOf (text : String) : List (Option Char) :=
  text.toList.map fun c => if c = '?' then none else some c

theorem literalValues_append (ts us : List Token) :
    literalValues (ts ++ us) = literalValues ts ++ literalValues us := by
  induction ts with
  | nil => rfl
  | cons t ts ih => cases t <;> simp [literalValues, ih]

theorem literalValues_chars (cs : List Char) : literalValues (cs.map .char) = [] := by
  induction cs with
  | nil => rfl
  | cons c cs ih => exact ih

theorem frame_append (ts us : List Token) : frame (ts ++ us) = frame ts ++ frame us := by
  induction ts with
  | nil => rfl
  | cons t ts ih => cases t <;> simp [frame, ih]

theorem frame_chars (cs : List Char) : frame (cs.map .char) = cs.map some := by
  induction cs with
  | nil => rfl
  | cons c cs ih => exact congrArg (some c :: ·) ih

theorem frameOf_append (s t : String) : frameOf (s ++ t) = frameOf s ++ frameOf t := by
  simp [frameOf]

/-! ## Reading what was quoted -/

def doubledQuote (c : Char) : List Char := if c = '\'' then ['\'', '\''] else [c]

theorem quoteChars_eq (cs : List Char) :
    quoteChars cs = '\'' :: (cs.flatMap doubledQuote ++ ['\'']) := rfl

theorem readPlain_append {cs : List Char} (h : '\'' ∉ cs) (rest : List Char) :
    readPlain (cs ++ rest) = (readPlain rest).map (cs.map .char ++ ·) := by
  induction cs with
  | nil => simp
  | cons c cs ih =>
    obtain ⟨hc, hcs⟩ : '\'' ≠ c ∧ '\'' ∉ cs := by simpa using h
    rw [List.cons_append, readPlain, if_neg (Ne.symm hc), ih hcs, Option.map_map]
    rfl

theorem readLiteral_doubledQuote (c : Char) (rest : List Char) :
    readLiteral (doubledQuote c ++ rest) =
      (readLiteral rest).map fun (value, ts) => (c :: value, ts) := by
  by_cases hc : c = '\''
  · subst hc
    rfl
  · rw [doubledQuote, if_neg hc, List.singleton_append, readLiteral]
    · intro cs h
      exact absurd h hc
    · exact hc

theorem readLiteral_quote {rest : List Char} (h : rest.head? ≠ some '\'') :
    readLiteral ('\'' :: rest) = (readPlain rest).map fun ts => ([], ts) := by
  cases rest with
  | nil => rfl
  | cons c cs =>
    have hc : c ≠ '\'' := by simpa using h
    rw [readLiteral]
    intro cs' heq
    exact hc (List.cons.inj heq).1

/-- From its start a literal is read to its end, where no quote follows. -/
theorem readLiteral_quoted (value : List Char) {rest : List Char} (h : rest.head? ≠ some '\'') :
    readLiteral (value.flatMap doubledQuote ++ '\'' :: rest) =
      (readPlain rest).map fun ts => (value, ts) := by
  induction value with
  | nil => exact readLiteral_quote h
  | cons c cs ih =>
    rw [List.flatMap_cons, List.append_assoc, readLiteral_doubledQuote, ih, Option.map_map]
    rfl

theorem readPlain_quoteChars (value : String) {rest : List Char} (h : rest.head? ≠ some '\'') :
    readPlain (quoteChars value.toList ++ rest) = (readPlain rest).map (.literal value :: ·) := by
  rw [quoteChars_eq, List.cons_append, List.append_assoc, List.singleton_append, readPlain,
    if_pos rfl, readLiteral_quoted _ h, Option.map_map]
  simp [Function.comp_def]

/-! ## Statements -/

def IsClear (text : String) : Prop := ∀ c ∈ text.toList, c ≠ '\'' ∧ c ≠ '?'

/-- Clear text that keeps two literals apart. -/
def IsFixed (text : String) : Prop := text ≠ "" ∧ IsClear text

instance (text : String) : Decidable (IsClear text) :=
  List.decidableBAll (fun c => c ≠ '\'' ∧ c ≠ '?') text.toList

instance (text : String) : Decidable (IsFixed text) :=
  inferInstanceAs (Decidable (text ≠ "" ∧ IsClear text))

theorem IsClear.append {s t : String} (hs : IsClear s) (ht : IsClear t) : IsClear (s ++ t) := by
  intro c hc
  rcases List.mem_append.1 (String.toList_append ▸ hc) with hc | hc
  · exact hs c hc
  · exact ht c hc

theorem IsFixed.append {s t : String} (hs : IsFixed s) (ht : IsClear t) : IsFixed (s ++ t) :=
  ⟨fun h => hs.1 (String.append_eq_empty_iff.1 h).1, hs.2.append ht⟩

theorem isFixed_decimalText (n : Nat) : IsFixed (Text.decimalText n) := by
  constructor
  · intro h
    exact Nat.toDigits_ne_nil (String.ofList_eq_empty_iff.1 h)
  · intro c hc
    have hdigit : c.isDigit = true :=
      Text.decimal_isDigit (by simpa [Text.decimalText] using hc)
    constructor <;> rintro rfl <;> exact absurd hdigit (by decide)

theorem IsFixed.head?_append {text : String} (h : IsFixed text) (cs : List Char) :
    (text.toList ++ cs).head? ≠ some '\'' := by
  cases hcs : text.toList with
  | nil => exact absurd (String.toList_eq_nil_iff.1 hcs) h.1
  | cons c rest => simpa using (h.2 c (by simp [hcs])).1

theorem frameOf_of_clear {text : String} (h : IsClear text) :
    frameOf text = text.toList.map some := by
  apply List.map_congr_left
  intro c hc
  rw [if_neg (h c hc).2]

def Part.tokens : Part → List Token
  | .plain text => text.toList.map .char
  | .literal value => [.literal value]

def Part.prepared : Part → String
  | .plain text => text
  | .literal _ => "?"

def Part.value? : Part → Option String
  | .plain _ => none
  | .literal value => some value

namespace Statement

def tokens (s : Statement) : List Token := s.flatMap Part.tokens

def prepared (s : Statement) : String := String.join (s.map Part.prepared)

def literals (s : Statement) : List String := s.filterMap Part.value?

def IsSeparated : Statement → Prop
  | [] => True
  | [.literal _] => True
  | .literal _ :: .literal _ :: _ => False
  | .literal _ :: .plain text :: rest => IsSeparated (.plain text :: rest)
  | .plain text :: rest => IsFixed text ∧ IsSeparated rest

theorem prepared_cons (p : Part) (s : Statement) :
    prepared (p :: s) = p.prepared ++ prepared s := String.join_cons

theorem prepared_append (s t : Statement) : prepared (s ++ t) = prepared s ++ prepared t := by
  simp [prepared, String.join_append]

theorem tokens_append (s t : Statement) : tokens (s ++ t) = tokens s ++ tokens t :=
  List.flatMap_append

variable {s : Statement}

theorem IsSeparated.fixed (h : s.IsSeparated) {text : String} (ht : .plain text ∈ s) :
    IsFixed text := by
  induction s using IsSeparated.induct with
  | case1 => cases ht
  | case2 v => simp at ht
  | case3 => exact absurd h id
  | case4 v t rest ih => exact ih h (by simpa using ht)
  | case5 t rest ih =>
    rcases List.mem_cons.1 ht with heq | ht
    · cases heq
      exact h.1
    · exact ih h.2 ht

/-- A separated statement is read as its parts. -/
theorem readText_text (h : s.IsSeparated) : Token.readText s.text = some s.tokens := by
  rw [Token.readText, text, String.toList_ofList, tokens]
  induction s using IsSeparated.induct with
  | case1 => rfl
  | case2 v =>
    have hread : readPlain (quoteChars v.toList ++ []) = _ := readPlain_quoteChars v (by simp)
    simpa [Part.chars, Part.tokens, readPlain] using hread
  | case3 => exact absurd h id
  | case4 v t rest ih =>
    have hhead : ((Part.plain t :: rest).flatMap Part.chars).head? ≠ some '\'' :=
      (h.fixed (by simp)).head?_append _
    rw [List.flatMap_cons, Part.chars, readPlain_quoteChars v hhead, ih h]
    rfl
  | case5 t rest ih =>
    have hquote : '\'' ∉ t.toList := fun hmem => (h.1.2 _ hmem).1 rfl
    rw [List.flatMap_cons, Part.chars, readPlain_append hquote, ih h.2]
    rfl

theorem literalValues_tokens (s : Statement) : literalValues s.tokens = s.literals := by
  induction s with
  | nil => rfl
  | cons p s ih =>
    rw [tokens, List.flatMap_cons, literalValues_append, ← tokens, ih]
    cases p with
    | plain text =>
      rw [Part.tokens, literalValues_chars]
      rfl
    | literal v => rfl

theorem frame_tokens (h : ∀ text, .plain text ∈ s → IsFixed text) :
    frame s.tokens = frameOf s.prepared := by
  induction s with
  | nil => rfl
  | cons p s ih =>
    have hpart : frame p.tokens = frameOf p.prepared := by
      cases p with
      | plain text =>
        have hclear : IsClear text := (h text (by simp)).2
        rw [Part.tokens, frame_chars, Part.prepared, frameOf_of_clear hclear]
      | literal v =>
        rw [Part.prepared, show frameOf "?" = [none] by decide]
        rfl
    have hrest : frame (tokens s) = frameOf (prepared s) := ih fun text ht => h text (by simp [ht])
    rw [tokens, List.flatMap_cons, frame_append, ← tokens, hrest, prepared_cons, frameOf_append,
      hpart]

end Statement

end SingleWriter.Sql
