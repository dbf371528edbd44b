import SingleWriter.Text.Blank
import SingleWriter.Text.Numeral
import Mathlib.Data.List.DropRight
import Mathlib.Data.List.TakeWhile

/-!
# Trimmed texts

A text is tight when it neither starts nor ends with white space. Trimming gives a tight text,
leaves a tight text alone, and does not see white space that is put around a text.
-/

set_option autoImplicit false

namespace SingleWriter.Text

/-! ## Dropping at either end -/

section Dropping

variable {p : Char → Bool} {cs : List Char}

theorem dropWhile_of_head? (h : ∀ c ∈ cs.head?, p c = false) : cs.dropWhile p = cs := by
  cases cs with
  | nil => rfl
  | cons c cs => rw [List.dropWhile_cons_of_neg (by simp [h c rfl])]

theorem dropRightWhile_of_getLast? (h : ∀ c ∈ cs.getLast?, p c = false) :
    dropRightWhile p cs = cs := by
  rw [dropRightWhile, dropWhile_of_head? (by simpa using h), List.reverse_reverse]

theorem head?_dropWhile (p : Char → Bool) (cs : List Char) :
    ∀ c ∈ (cs.dropWhile p).head?, p c = false := by
  intro c hc
  have h := List.head?_dropWhile_not p cs
  rw [Option.mem_def.1 hc] at h
  exact h

theorem getLast?_dropRightWhile (p : Char → Bool) (cs : List Char) :
    ∀ c ∈ (dropRightWhile p cs).getLast?, p c = false := by
  rw [dropRightWhile, List.getLast?_reverse]
  exact head?_dropWhile p cs.reverse

theorem prefix_dropRightWhile (p : Char → Bool) (cs : List Char) : dropRightWhile p cs <+: cs :=
  List.rdropWhile_prefix p cs

theorem head?_dropRightWhile {c : Char} (h : (dropRightWhile p cs).head? = some c) :
    cs.head? = some c := by
  obtain ⟨rest, hrest⟩ := prefix_dropRightWhile p cs
  rw [← hrest, List.head?_append, h]
  rfl

theorem dropRightWhile_append {after : List Char} (h : ∀ c ∈ after, p c = true) :
    dropRightWhile p (cs ++ after) = dropRightWhile p cs := by
  rw [dropRightWhile, List.reverse_append, List.dropWhile_append_of_pos (by simpa using h)]
  rfl

end Dropping

/-! ## Tight texts -/

structure IsTight (cs : List Char) : Prop where
  head : ∀ c ∈ cs.head?, isBlank c = false
  last : ∀ c ∈ cs.getLast?, isBlank c = false

variable {cs : List Char}

theorem isTight_trim (cs : List Char) : IsTight (trim cs) where
  head _ hc := head?_dropWhile isBlank cs _ (head?_dropRightWhile hc)
  last := getLast?_dropRightWhile isBlank _

theorem trim_of_tight (h : IsTight cs) : trim cs = cs := by
  rw [trim, dropWhile_of_head? h.head, dropRightWhile_of_getLast? h.last]

theorem trim_eq_self_iff : trim cs = cs ↔ IsTight cs :=
  ⟨fun h => h ▸ isTight_trim cs, trim_of_tight⟩

theorem trim_sublist (cs : List Char) : (trim cs).Sublist cs :=
  (prefix_dropRightWhile isBlank _).sublist.trans (List.dropWhile_sublist isBlank)

theorem trim_eq_nil_iff : trim cs = [] ↔ ∀ c ∈ cs, isBlank c = true := by
  rw [trim, dropRightWhile, List.reverse_eq_nil_iff, List.dropWhile_eq_nil_iff]
  constructor
  · intro h c hc
    rw [← List.takeWhile_append_dropWhile (p := isBlank) (l := cs), List.mem_append] at hc
    rcases hc with hc | hc
    · exact List.mem_takeWhile_imp hc
    · exact h c (List.mem_reverse.2 hc)
  · intro h c hc
    exact h c ((List.dropWhile_sublist isBlank).mem (List.mem_reverse.1 hc))

theorem trim_append_left {before : List Char} (h : ∀ c ∈ before, isBlank c = true)
    (cs : List Char) : trim (before ++ cs) = trim cs := by
  rw [trim, List.dropWhile_append_of_pos h]
  rfl

theorem trim_append_right {after : List Char} (h : ∀ c ∈ after, isBlank c = true)
    (cs : List Char) : trim (cs ++ after) = trim cs := by
  rw [trim, List.dropWhile_append]
  by_cases hcs : cs.dropWhile isBlank = []
  · rw [if_pos (by simpa using hcs), List.dropWhile_eq_nil_iff.2 h, trim, hcs]
  · rw [if_neg (by simpa using hcs), dropRightWhile_append h]
    rfl

theorem trim_dropWhile (cs : List Char) : trim (cs.dropWhile isBlank) = trim cs := by
  rw [trim, List.dropWhile_idempotent]
  rfl

/-! ## Numerals are tight -/

theorem isBlank_of_isDigit {c : Char} (h : c.isDigit = true) : isBlank c = false := by
  have hbounds : 48 ≤ c.toNat ∧ c.toNat ≤ 57 := by
    simpa [Char.isDigit, UInt32.le_iff_toNat_le] using h
  simp [isBlank]
  omega

theorem trim_of_not_blank (h : ∀ c ∈ cs, isBlank c = false) : trim cs = cs :=
  trim_of_tight ⟨fun c hc => h c (List.mem_of_mem_head? hc),
    fun c hc => h c (List.mem_of_mem_getLast? hc)⟩

theorem trim_decimal (n : Nat) : trim (decimal n) = decimal n :=
  trim_of_not_blank fun _ h => isBlank_of_isDigit (decimal_isDigit h)

end SingleWriter.Text
