import SingleWriter.Json.Reader
import Mathlib.Data.List.TakeDrop

/-!
# Texts of JSON strings and numbers

A string may have any of its characters escaped, and a number any of its spellings. Each is a
relation between what is meant and its texts, and the reader takes every such text off the front
of what follows it.
-/

set_option autoImplicit false

namespace SingleWriter.Json

/-! ## Strings -/

def escapes : List (Char × Nat) :=
  [('"', 0x22), ('\\', 0x5C), ('/', 0x2F), ('b', 0x08), ('f', 0x0C), ('n', 0x0A), ('r', 0x0D),
    ('t', 0x09)]

inductive UnitText : Nat → List Char → Prop
  | plain {c : Char} (hquote : c ≠ '"') (hslash : c ≠ '\\') (hcontrol : 0x20 ≤ c.toNat) :
      UnitText c.toNat [c]
  | short {e : Char} {n : Nat} (h : (e, n) ∈ escapes) : UnitText n ['\\', e]
  | long {w x y z : Char} {a b c d : Nat} (hw : Text.hexValue? w = some a)
      (hx : Text.hexValue? x = some b) (hy : Text.hexValue? y = some c)
      (hz : Text.hexValue? z = some d) :
      UnitText (((a * 16 + b) * 16 + c) * 16 + d) ['\\', 'u', w, x, y, z]

inductive UnitsText : List Nat → List Char → Prop
  | nil : UnitsText [] []
  | cons {n : Nat} {ns : List Nat} {us cs : List Char} (h : UnitText n us)
      (hs : UnitsText ns cs) : UnitsText (n :: ns) (us ++ cs)

/-- The text of numbers of which two surrogates in a row make one character. -/
inductive Spells : List Nat → List Char → Prop
  | nil : Spells [] []
  | single {n : Nat} {ns : List Nat} {cs : List Char} (hhigh : isHighSurrogate n = false)
      (hlow : isLowSurrogate n = false) (hs : Spells ns cs) :
      Spells (n :: ns) (Char.ofNat n :: cs)
  | pair {n m : Nat} {ns : List Nat} {cs : List Char} (hhigh : isHighSurrogate n = true)
      (hlow : isLowSurrogate m = true) (hs : Spells ns cs) :
      Spells (n :: m :: ns)
        (Char.ofNat (0x10000 + (n - 0xD800) * 0x400 + (m - 0xDC00)) :: cs)

/-- A quoted string with the text it spells, or without one when a surrogate stands alone. -/
inductive StringText : Option String → List Char → Prop
  | spelled {ns : List Nat} {body cs : List Char} (h : UnitsText ns body) (hs : Spells ns cs) :
      StringText (some (String.ofList cs)) ('"' :: (body ++ ['"']))
  | torn {ns : List Nat} {body : List Char} (h : UnitsText ns body) (hs : ∀ cs, ¬ Spells ns cs) :
      StringText none ('"' :: (body ++ ['"']))

/-! ## Reading strings -/

theorem units_append_of_unitText {n : Nat} {us : List Char} (h : UnitText n us)
    (rest : List Char) :
    units (us ++ rest) = (units rest).map fun (ns, after) => (n :: ns, after) := by
  cases h with
  | plain hquote hslash hcontrol =>
    rw [List.singleton_append, units.eq_def]
    simp only [if_neg hquote, if_neg hslash, if_neg (Nat.not_lt.2 hcontrol)]
  | short h =>
    simp only [escapes, List.mem_cons, Prod.mk.injEq, List.not_mem_nil, or_false] at h
    rcases h with ⟨rfl, rfl⟩ | ⟨rfl, rfl⟩ | ⟨rfl, rfl⟩ | ⟨rfl, rfl⟩ | ⟨rfl, rfl⟩ | ⟨rfl, rfl⟩ |
      ⟨rfl, rfl⟩ | ⟨rfl, rfl⟩ <;> simp [units, escaped?]
  | long hw hx hy hz => simp [units, hexWord?, hw, hx, hy, hz]

theorem units_append {ns : List Nat} {body : List Char} (h : UnitsText ns body)
    (rest : List Char) : units (body ++ '"' :: rest) = some (ns, rest) := by
  induction h with
  | nil =>
    rw [List.nil_append, units.eq_def]
    rfl
  | cons hunit _ ih => rw [List.append_assoc, units_append_of_unitText hunit, ih, Option.map_some]

theorem spelled?_single {n : Nat} (hhigh : isHighSurrogate n = false)
    (hlow : isLowSurrogate n = false) (ns : List Nat) :
    spelled? (n :: ns) = (spelled? ns).map (Char.ofNat n :: ·) := by
  cases ns with
  | nil => simp [spelled?, hhigh, hlow]
  | cons m ns => simp [spelled?, hhigh, hlow]

theorem spelled?_eq_some_iff {ns : List Nat} {cs : List Char} :
    spelled? ns = some cs ↔ Spells ns cs := by
  constructor
  · intro h
    fun_induction spelled? ns generalizing cs with
    | case1 =>
      cases h
      exact .nil
    | case2 n hsurrogate => cases h
    | case3 n hsurrogate =>
      cases h
      obtain ⟨hhigh, hlow⟩ := by simpa using hsurrogate
      exact .single hhigh hlow .nil
    | case4 n m rest hhigh hlow ih =>
      obtain ⟨ds, hds, rfl⟩ := Option.map_eq_some_iff.1 h
      exact .pair hhigh hlow (ih hds)
    | case5 => cases h
    | case6 => cases h
    | case7 n m rest hhigh hlow ih =>
      obtain ⟨ds, hds, rfl⟩ := Option.map_eq_some_iff.1 h
      exact .single (by simpa using hhigh) (by simpa using hlow) (ih hds)
  · intro h
    induction h with
    | nil => rfl
    | single hhigh hlow _ ih => rw [spelled?_single hhigh hlow, ih, Option.map_some]
    | pair hhigh hlow _ ih => rw [spelled?, if_pos hhigh, if_pos hlow, ih, Option.map_some]

theorem StringText.exists_tail {s : Option String} {cs : List Char} (h : StringText s cs) :
    ∃ tail, cs = '"' :: tail ∧ ∀ rest, stringTail (tail ++ rest) = some (s, rest) := by
  cases h with
  | spelled hunits hspells =>
    refine ⟨_, rfl, fun rest => ?_⟩
    have hspelled := spelled?_eq_some_iff.2 hspells
    rw [List.append_assoc, List.singleton_append, stringTail, units_append hunits, Option.map_some]
    simp only [hspelled, Option.map_some]
  | @torn ns _ hunits hspells =>
    refine ⟨_, rfl, fun rest => ?_⟩
    have hnone : spelled? ns = none := by
      rw [Option.eq_none_iff_forall_ne_some]
      exact fun cs hcs => hspells cs (spelled?_eq_some_iff.1 hcs)
    rw [List.append_assoc, List.singleton_append, stringTail, units_append hunits, Option.map_some]
    simp only [hnone, Option.map_none]

/-- No character is a surrogate, so the numbers of its characters spell a text. -/
theorem spells_map_toNat (cs : List Char) : Spells (cs.map Char.toNat) cs := by
  induction cs with
  | nil => exact .nil
  | cons c cs ih =>
    have hvalid : c.toNat < 0xD800 ∨ 0xDFFF < c.toNat := by
      rcases c.valid with h | h
      · exact .inl h
      · exact .inr h.1
    have hsingle := Spells.single (n := c.toNat)
      (by simp [isHighSurrogate]; omega) (by simp [isLowSurrogate]; omega) ih
    rwa [Char.ofNat_toNat] at hsingle

/-! ## Numbers -/

structure IsDigits (ds : List Char) : Prop where
  nonempty : ds ≠ []
  digits : ∀ d ∈ ds, d.isDigit = true

structure IsWhole (ds : List Char) : Prop extends IsDigits ds where
  zero : ds.head? = some '0' → ds = ['0']

inductive FractionText : List Char → List Char → Prop
  | absent : FractionText [] []
  | present {ds : List Char} (h : IsDigits ds) : FractionText ds ('.' :: ds)

inductive ExponentText : Option (Bool × List Char) → List Char → Prop
  | absent : ExponentText none []
  | unsigned {e : Char} {ds : List Char} (he : e = 'e' ∨ e = 'E') (h : IsDigits ds) :
      ExponentText (some (false, ds)) (e :: ds)
  | plus {e : Char} {ds : List Char} (he : e = 'e' ∨ e = 'E') (h : IsDigits ds) :
      ExponentText (some (false, ds)) (e :: '+' :: ds)
  | minus {e : Char} {ds : List Char} (he : e = 'e' ∨ e = 'E') (h : IsDigits ds) :
      ExponentText (some (true, ds)) (e :: '-' :: ds)

inductive UnsignedText : Number → List Char → Prop
  | mk {negative : Bool} {whole fraction fs es : List Char} {exponent : Option (Bool × List Char)}
      (hw : IsWhole whole) (hf : FractionText fraction fs) (he : ExponentText exponent es) :
      UnsignedText { negative, whole, fraction, exponent } (whole ++ (fs ++ es))

inductive NumberText : Number → List Char → Prop
  | positive {n : Number} {cs : List Char} (hn : n.negative = false) (h : UnsignedText n cs) :
      NumberText n cs
  | negative {n : Number} {cs : List Char} (hn : n.negative = true) (h : UnsignedText n cs) :
      NumberText n ('-' :: cs)

/-! ## Reading numbers -/

section Numbers

variable {ds rest : List Char}

theorem digitRun_append (hds : ∀ d ∈ ds, d.isDigit = true)
    (hrest : ∀ c ∈ rest.head?, c.isDigit = false) : digitRun (ds ++ rest) = (ds, rest) := by
  rw [digitRun, List.span_eq_takeWhile_dropWhile, List.takeWhile_append_of_pos hds,
    List.dropWhile_append_of_pos hds]
  cases rest with
  | nil => simp
  | cons c rest => simp [hrest c rfl]

theorem IsDigits.exists_head (h : IsDigits ds) :
    ∃ d tail, ds = d :: tail ∧ d.isDigit = true := by
  cases ds with
  | nil => exact absurd rfl h.nonempty
  | cons d tail => exact ⟨d, tail, rfl, h.digits d (by simp)⟩

theorem wholePart_append (h : IsWhole ds) (hrest : ∀ c ∈ rest.head?, c.isDigit = false) :
    wholePart (ds ++ rest) = some (ds, rest) := by
  rw [wholePart, digitRun_append h.digits hrest]
  split
  · rename_i heq
    exact absurd (Prod.mk.inj heq).1 h.nonempty
  · rename_i heq
    obtain ⟨rfl, rfl⟩ := Prod.mk.inj heq
    have hzero := h.zero rfl
    cases hzero
  · rename_i heq
    obtain ⟨rfl, rfl⟩ := Prod.mk.inj heq
    rfl

def EndsNumber (rest : List Char) : Prop :=
  ∀ c ∈ rest.head?, c.isDigit = false ∧ c ≠ '.' ∧ c ≠ 'e' ∧ c ≠ 'E'

theorem fractionPart_append {fraction fs : List Char} (h : FractionText fraction fs)
    (hrest : ∀ c ∈ rest.head?, c.isDigit = false ∧ c ≠ '.') :
    fractionPart (fs ++ rest) = some (fraction, rest) := by
  cases h with
  | absent =>
    rw [List.nil_append, fractionPart.eq_def]
    split
    · exact absurd rfl (hrest '.' rfl).2
    · rfl
  | present h =>
    obtain ⟨d, tail, rfl, -⟩ := h.exists_head
    have hrun := digitRun_append h.digits fun c hc => (hrest c hc).1
    rw [List.cons_append] at hrun
    simp [fractionPart, hrun]

theorem exponentPart_of_sign {e : Char} {cs : List Char} {negative : Bool}
    (he : e = 'e' ∨ e = 'E') (hsign : exponentSign cs = (negative, ds ++ rest)) (h : IsDigits ds)
    (hrest : ∀ c ∈ rest.head?, c.isDigit = false) :
    exponentPart (e :: cs) = some (some (negative, ds), rest) := by
  obtain ⟨d, tail, rfl, -⟩ := h.exists_head
  rw [exponentPart, if_pos he, hsign]
  simp only [digitRun_append h.digits hrest]

theorem exponentSign_of_digit (h : IsDigits ds) (rest : List Char) :
    exponentSign (ds ++ rest) = (false, ds ++ rest) := by
  obtain ⟨d, tail, rfl, hd⟩ := h.exists_head
  rw [List.cons_append, exponentSign.eq_def]
  split
  · rename_i heq
    cases heq
    exact absurd hd (by decide)
  · rename_i heq
    cases heq
    exact absurd hd (by decide)
  · rfl

theorem exponentPart_append {exponent : Option (Bool × List Char)} {es : List Char}
    (h : ExponentText exponent es) (hrest : EndsNumber rest) :
    exponentPart (es ++ rest) = some (exponent, rest) := by
  have hdigit : ∀ c ∈ rest.head?, c.isDigit = false := fun c hc => (hrest c hc).1
  cases h with
  | absent =>
    cases rest with
    | nil => rfl
    | cons c rest =>
      obtain ⟨-, -, he, hE⟩ := hrest c rfl
      rw [List.nil_append, exponentPart, if_neg (by simp [he, hE])]
  | unsigned he h => exact exponentPart_of_sign he (exponentSign_of_digit h rest) h hdigit
  | plus he h => exact exponentPart_of_sign he rfl h hdigit
  | minus he h => exact exponentPart_of_sign he rfl h hdigit

/-- An exponent and what follows it do not go on with the digits before them. -/
theorem head?_exponent {exponent : Option (Bool × List Char)} {es : List Char}
    (h : ExponentText exponent es) (hrest : EndsNumber rest) :
    ∀ c ∈ (es ++ rest).head?, c.isDigit = false ∧ c ≠ '.' := by
  have hletter : ∀ e : Char, e = 'e' ∨ e = 'E' → e.isDigit = false ∧ e ≠ '.' := by
    rintro e (rfl | rfl) <;> decide
  cases h with
  | absent => exact fun c hc => ⟨(hrest c hc).1, (hrest c hc).2.1⟩
  | unsigned he _ => simpa using hletter _ he
  | plus he _ => simpa using hletter _ he
  | minus he _ => simpa using hletter _ he

theorem head?_fraction {fraction fs : List Char} (h : FractionText fraction fs)
    (hrest : ∀ c ∈ rest.head?, c.isDigit = false) :
    ∀ c ∈ (fs ++ rest).head?, c.isDigit = false := by
  cases h with
  | absent => exact hrest
  | present _ => simp

theorem UnsignedText.exists_head {n : Number} {cs : List Char} (h : UnsignedText n cs) :
    ∃ d tail, cs = d :: tail ∧ d.isDigit = true := by
  obtain ⟨hw, -, -⟩ := h
  obtain ⟨d, tail, rfl, hd⟩ := hw.exists_head
  exact ⟨d, _, rfl, hd⟩

theorem numeral_of_sign {n : Number} {cs text : List Char} (h : UnsignedText n cs)
    (hsign : sign text = (n.negative, cs ++ rest)) (hrest : EndsNumber rest) :
    numeral text = some (n, rest) := by
  obtain ⟨hw, hf, he⟩ := h
  have hexp := head?_exponent he hrest
  have hwhole := wholePart_append hw (head?_fraction hf fun c hc => (hexp c hc).1)
  have hfraction := fractionPart_append hf hexp
  have hexponent := exponentPart_append he hrest
  simp only [List.append_assoc] at hsign hwhole hfraction
  simp [numeral, hsign, hwhole, hfraction, hexponent]

theorem sign_of_digit {d : Char} (hd : d.isDigit = true) (cs : List Char) :
    sign (d :: cs) = (false, d :: cs) := by
  rw [sign.eq_def]
  split
  · rename_i heq
    cases heq
    exact absurd hd (by decide)
  · rfl

theorem numeral_append {n : Number} {cs : List Char} (h : NumberText n cs)
    (hrest : EndsNumber rest) : numeral (cs ++ rest) = some (n, rest) := by
  cases h with
  | positive hn h =>
    obtain ⟨d, tail, rfl, hd⟩ := h.exists_head
    exact numeral_of_sign h (by rw [hn, List.cons_append, sign_of_digit hd]) hrest
  | negative hn h => exact numeral_of_sign h (by rw [hn]; rfl) hrest

theorem NumberText.exists_head {n : Number} {cs : List Char} (h : NumberText n cs) :
    ∃ c tail, cs = c :: tail ∧ (c = '-' ∨ c.isDigit = true) := by
  cases h with
  | positive _ h =>
    obtain ⟨d, tail, rfl, hd⟩ := h.exists_head
    exact ⟨d, tail, rfl, .inr hd⟩
  | negative _ _ => exact ⟨'-', _, rfl, .inl rfl⟩

end Numbers

end SingleWriter.Json
