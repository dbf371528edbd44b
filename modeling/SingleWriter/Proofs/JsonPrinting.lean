import SingleWriter.Json.Printer
import SingleWriter.Proofs.JsonTexts

/-!
# Printed JSON

The compact form of a value is one of its texts. Only numbers could break this: a value may
hold a number that no text says.
-/

set_option autoImplicit false

namespace SingleWriter.Json

/-! ## Strings -/

theorem unitText_escapeChar (c : Char) : UnitText c.toNat (escapeChar c) := by
  rw [escapeChar]
  split_ifs with hquote hslash hline hreturn htab hback hfeed hcontrol
  · subst hquote
    exact .short (by decide)
  · subst hslash
    exact .short (by decide)
  · subst hline
    exact .short (by decide)
  · subst hreturn
    exact .short (by decide)
  · subst htab
    exact .short (by decide)
  · rw [hback]
    exact .short (by decide)
  · rw [hfeed]
    exact .short (by decide)
  · have hzero : Text.hexValue? '0' = some 0 := rfl
    have hhigh := Text.hexValue?_hexDigit (c.toNat / 16) (by omega)
    have hlow := Text.hexValue?_hexDigit (c.toNat % 16) (by omega)
    have hvalue : ((0 * 16 + 0) * 16 + c.toNat / 16) * 16 + c.toNat % 16 = c.toNat := by omega
    have hlong := UnitText.long hzero hzero hhigh hlow
    rwa [hvalue] at hlong
  · exact .plain hquote hslash (by omega)

theorem unitsText_flatMap (cs : List Char) :
    UnitsText (cs.map Char.toNat) (cs.flatMap escapeChar) := by
  induction cs with
  | nil => exact .nil
  | cons c cs ih => exact .cons (unitText_escapeChar c) ih

theorem stringText_quoted (s : Option String) : StringText s (quoted s) := by
  cases s with
  | some s =>
    have hstring := StringText.spelled (unitsText_flatMap s.toList) (spells_map_toNat s.toList)
    rwa [String.ofList_toList] at hstring
  | none =>
    have hd : Text.hexValue? 'd' = some 13 := rfl
    have height : Text.hexValue? '8' = some 8 := rfl
    have hzero : Text.hexValue? '0' = some 0 := rfl
    refine .torn (.cons (.long hd height hzero hzero) .nil) fun cs h => ?_
    cases h with
    | single hhigh => exact absurd hhigh (by decide)

/-! ## Numbers -/

structure Number.IsPrintable (n : Number) : Prop where
  whole : IsWhole n.whole
  fraction : ∀ d ∈ n.fraction, d.isDigit = true
  exponent : ∀ e ∈ n.exponent, IsDigits e.2

theorem exists_exponentText {n : Number} (h : n.IsPrintable) :
    ∃ es, ExponentText n.exponent es ∧ n.chars = (if n.negative then ['-'] else []) ++
      (n.whole ++ ((if n.fraction = [] then [] else '.' :: n.fraction) ++ es)) := by
  obtain ⟨negative, whole, fraction, exponent⟩ := n
  rcases exponent with _ | ⟨down, ds⟩
  · exact ⟨[], .absent, by simp [Number.chars]⟩
  · have hds : IsDigits ds := h.exponent (down, ds) rfl
    cases down with
    | false => exact ⟨_, .unsigned (.inl rfl) hds, by simp [Number.chars]⟩
    | true => exact ⟨_, .minus (.inl rfl) hds, by simp [Number.chars]⟩

theorem fractionText_chars {fraction : List Char} (h : ∀ d ∈ fraction, d.isDigit = true) :
    FractionText fraction (if fraction = [] then [] else '.' :: fraction) := by
  split_ifs with hnil
  · exact hnil ▸ .absent
  · exact .present ⟨hnil, h⟩

theorem numberText_chars {n : Number} (h : n.IsPrintable) : NumberText n n.chars := by
  obtain ⟨es, hexponent, hchars⟩ := exists_exponentText h
  have hunsigned : UnsignedText n _ := .mk h.whole (fractionText_chars h.fraction) hexponent
  rw [hchars]
  cases hsign : n.negative with
  | false => exact .positive hsign hunsigned
  | true => exact .negative hsign hunsigned

/-! ## Values -/

mutual

def IsPrintable : Json → Prop
  | .number n => n.IsPrintable
  | .array vs => ArePrintableItems vs
  | .object ms => ArePrintableMembers ms
  | _ => True

def ArePrintableItems : List Json → Prop
  | [] => True
  | v :: vs => IsPrintable v ∧ ArePrintableItems vs

def ArePrintableMembers : List (Option String × Json) → Prop
  | [] => True
  | (_, v) :: ms => IsPrintable v ∧ ArePrintableMembers ms

end

section Gapless

variable {key : Option String} {v : Json} {vs : List Json} {ms : List (Option String × Json)}
  {ks cs ds : List Char}

theorem written_array (h : Written (.items vs) cs) : Written (.value (.array vs)) ('[' :: cs) :=
  .array isGap_nil h

theorem written_object (h : Written (.members ms) cs) :
    Written (.value (.object ms)) ('\x7b' :: cs) :=
  .object isGap_nil h

theorem written_item (h : Written (.value v) cs) (hs : Written (.items vs) ds) :
    Written (.items (v :: vs)) (cs ++ ',' :: ds) :=
  .item h isGap_nil isGap_nil hs

theorem written_lastMember (hk : StringText key ks) (h : Written (.value v) cs) :
    Written (.members [(key, v)]) (ks ++ ':' :: (cs ++ ['\x7d'])) :=
  .lastMember hk isGap_nil isGap_nil h isGap_nil

theorem written_member (hk : StringText key ks) (h : Written (.value v) cs)
    (hs : Written (.members ms) ds) :
    Written (.members ((key, v) :: ms)) (ks ++ ':' :: (cs ++ ',' :: ds)) :=
  .member hk isGap_nil isGap_nil h isGap_nil isGap_nil hs

end Gapless

mutual

theorem written_compact : (v : Json) → v.IsPrintable → Written (.value v) v.compact
  | .null, _ => .null
  | .bool true, _ => .yes
  | .bool false, _ => .no
  | .number _, h => .number (numberText_chars h)
  | .string s, _ => .string (stringText_quoted s)
  | .array [], _ => .noItems isGap_nil
  | .array (v :: vs), h => written_array (written_compactItems (written_compact v h.1) vs h.2)
  | .object [], _ => .noMembers isGap_nil
  | .object ((k, v) :: ms), h =>
    written_object (written_compactMembers k (written_compact v h.1) ms h.2)

theorem written_compactItems {v : Json} {cs : List Char} (hv : Written (.value v) cs) :
    (vs : List Json) → ArePrintableItems vs → Written (.items (v :: vs)) (cs ++ compactItems vs)
  | [], _ => .lastItem hv isGap_nil
  | w :: ws, h => written_item hv (written_compactItems (written_compact w h.1) ws h.2)

theorem written_compactMembers (k : Option String) {v : Json} {cs : List Char}
    (hv : Written (.value v) cs) : (ms : List (Option String × Json)) → ArePrintableMembers ms →
      Written (.members ((k, v) :: ms)) (quoted k ++ ':' :: (cs ++ compactMembers ms))
  | [], _ => written_lastMember (stringText_quoted k) hv
  | (l, w) :: ms, h =>
    written_member (stringText_quoted k) hv
      (written_compactMembers l (written_compact w h.1) ms h.2)

end

end SingleWriter.Json
