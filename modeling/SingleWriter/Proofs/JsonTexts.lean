import SingleWriter.Proofs.JsonTokens
import Mathlib.Data.List.TakeWhile

/-!
# Texts of JSON values

The grammar of JSON, as a relation between a value and its texts, with white space between any
two tokens. Phrases are values and what stands between the brackets of an array or an object.
Nesting has no bound.

The reader accepts every text of the grammar and gives its value. A step of the reader spends
fuel and some text, so that the length of the text is fuel enough.
-/

set_option autoImplicit false

namespace SingleWriter.Json

/-! ## Phrases -/

def IsGap (cs : List Char) : Prop := ∀ c ∈ cs, isSpace c = true

theorem isGap_nil : IsGap [] := by simp [IsGap]

/-- A value, or the items or members that end with the closing bracket. -/
inductive Phrase where
  | value (v : Json)
  | items (vs : List Json)
  | members (ms : List (Option String × Json))

inductive Written : Phrase → List Char → Prop
  | null : Written (.value .null) ['n', 'u', 'l', 'l']
  | yes : Written (.value (.bool true)) ['t', 'r', 'u', 'e']
  | no : Written (.value (.bool false)) ['f', 'a', 'l', 's', 'e']
  | number {n : Number} {cs : List Char} (h : NumberText n cs) : Written (.value (.number n)) cs
  | string {s : Option String} {cs : List Char} (h : StringText s cs) :
      Written (.value (.string s)) cs
  | noItems {g : List Char} (hg : IsGap g) : Written (.value (.array [])) ('[' :: (g ++ [']']))
  | array {vs : List Json} {g cs : List Char} (hg : IsGap g) (h : Written (.items vs) cs) :
      Written (.value (.array vs)) ('[' :: (g ++ cs))
  | noMembers {g : List Char} (hg : IsGap g) :
      Written (.value (.object [])) ('\x7b' :: (g ++ ['\x7d']))
  | object {ms : List (Option String × Json)} {g cs : List Char} (hg : IsGap g)
      (h : Written (.members ms) cs) : Written (.value (.object ms)) ('\x7b' :: (g ++ cs))
  | lastItem {v : Json} {cs g : List Char} (h : Written (.value v) cs) (hg : IsGap g) :
      Written (.items [v]) (cs ++ (g ++ [']']))
  | item {v : Json} {vs : List Json} {cs g₁ g₂ ds : List Char} (h : Written (.value v) cs)
      (hg₁ : IsGap g₁) (hg₂ : IsGap g₂) (hs : Written (.items vs) ds) :
      Written (.items (v :: vs)) (cs ++ (g₁ ++ ',' :: (g₂ ++ ds)))
  | lastMember {key : Option String} {v : Json} {ks g₁ g₂ cs g₃ : List Char}
      (hk : StringText key ks) (hg₁ : IsGap g₁) (hg₂ : IsGap g₂) (h : Written (.value v) cs)
      (hg₃ : IsGap g₃) :
      Written (.members [(key, v)]) (ks ++ (g₁ ++ ':' :: (g₂ ++ (cs ++ (g₃ ++ ['\x7d'])))))
  | member {key : Option String} {v : Json} {ms : List (Option String × Json)}
      {ks g₁ g₂ cs g₃ g₄ ds : List Char} (hk : StringText key ks) (hg₁ : IsGap g₁)
      (hg₂ : IsGap g₂) (h : Written (.value v) cs) (hg₃ : IsGap g₃) (hg₄ : IsGap g₄)
      (hs : Written (.members ms) ds) :
      Written (.members ((key, v) :: ms))
        (ks ++ (g₁ ++ ':' :: (g₂ ++ (cs ++ (g₃ ++ ',' :: (g₄ ++ ds))))))

/-! ## Reading values -/

theorem skipSpace_append {g cs : List Char} (hg : IsGap g)
    (hcs : ∀ c ∈ cs.head?, isSpace c = false) : skipSpace (g ++ cs) = cs := by
  rw [skipSpace, List.dropWhile_append_of_pos hg]
  cases cs with
  | nil => rfl
  | cons c cs => rw [List.dropWhile_cons_of_neg (by simp [hcs c rfl])]

theorem skipSpace_cons {g : List Char} (hg : IsGap g) {c : Char} (hc : isSpace c = false)
    (cs : List Char) : skipSpace (g ++ c :: cs) = c :: cs :=
  skipSpace_append hg (by simpa using hc)

theorem endsNumber_cons {c : Char} (hc : c = ',' ∨ c = ']' ∨ c = '\x7d') (rest : List Char) :
    EndsNumber (c :: rest) := by
  intro d hd
  obtain rfl : c = d := by simpa using hd
  rcases hc with rfl | rfl | rfl <;> decide

theorem endsNumber_append {g rest : List Char} (hg : IsGap g) (hrest : EndsNumber rest) :
    EndsNumber (g ++ rest) := by
  cases g with
  | nil => exact hrest
  | cons b g =>
    intro d hd
    obtain rfl : b = d := by simpa using hd
    have hspace := hg b (by simp)
    simp only [isSpace, Bool.or_eq_true, beq_iff_eq] at hspace
    rcases hspace with ((rfl | rfl) | rfl) | rfl <;> decide

structure Opens (cs : List Char) : Prop where
  nonempty : cs ≠ []
  head : ∀ c ∈ cs.head?, isSpace c = false ∧ c ≠ ']' ∧ c ≠ '\x7d'

theorem Opens.append {cs : List Char} (h : Opens cs) (rest : List Char) : Opens (cs ++ rest) where
  nonempty := by simp [h.nonempty]
  head := by
    cases cs with
    | nil => exact absurd rfl h.nonempty
    | cons c cs => exact h.head

theorem Opens.skipSpace {g cs : List Char} (h : Opens cs) (hg : IsGap g) :
    Json.skipSpace (g ++ cs) = cs :=
  skipSpace_append hg fun c hc => (h.head c hc).1

theorem opens_cons {c : Char} (h : isSpace c = false ∧ c ≠ ']' ∧ c ≠ '\x7d') (cs : List Char) :
    Opens (c :: cs) where
  nonempty := by simp
  head := by simpa using h

theorem StringText.opens {s : Option String} {cs : List Char} (h : StringText s cs) :
    Opens cs := by
  obtain ⟨tail, rfl, -⟩ := h.exists_tail
  exact opens_cons (by decide) tail

theorem NumberText.opens {n : Number} {cs : List Char} (h : NumberText n cs) : Opens cs := by
  obtain ⟨c, tail, rfl, hc⟩ := h.exists_head
  apply opens_cons
  rcases hc with rfl | hc
  · decide
  · refine ⟨?_, ?_, ?_⟩
    · by_contra hspace
      simp only [isSpace, Bool.not_eq_false, Bool.or_eq_true, beq_iff_eq] at hspace
      rcases hspace with ((rfl | rfl) | rfl) | rfl <;> exact absurd hc (by decide)
    · rintro rfl
      exact absurd hc (by decide)
    · rintro rfl
      exact absurd hc (by decide)

theorem Written.opens {p : Phrase} {cs : List Char} (h : Written p cs) : Opens cs := by
  induction h with
  | null => exact opens_cons (by decide) _
  | yes => exact opens_cons (by decide) _
  | no => exact opens_cons (by decide) _
  | number h => exact h.opens
  | string h => exact h.opens
  | noItems _ => exact opens_cons (by decide) _
  | array _ _ _ => exact opens_cons (by decide) _
  | noMembers _ => exact opens_cons (by decide) _
  | object _ _ _ => exact opens_cons (by decide) _
  | lastItem _ _ ih => exact ih.append _
  | item _ _ _ _ ih _ => exact ih.append _
  | lastMember hk _ _ _ _ _ => exact hk.opens.append _
  | member hk _ _ _ _ _ _ _ _ => exact hk.opens.append _

theorem Written.last_of_members {ms : List (Option String × Json)} {cs : List Char}
    (h : Written (.members ms) cs) : cs.getLast? = some '\x7d' := by
  generalize hp : Phrase.members ms = p at h
  induction h generalizing ms with
  | lastMember => simp [List.getLast?_append, List.getLast?_cons]
  | member _ _ _ _ _ _ _ _ ih => simp [List.getLast?_append, List.getLast?_cons, ih rfl]
  | _ => cases hp

/-- The text of an object stands between its two braces. -/
theorem Written.braces_of_object {ms : List (Option String × Json)} {cs : List Char}
    (h : Written (.value (.object ms)) cs) :
    ∃ rest, cs = '\x7b' :: rest ∧ rest.getLast? = some '\x7d' := by
  cases h with
  | noMembers _ => exact ⟨_, rfl, by simp⟩
  | object _ h => exact ⟨_, rfl, by simp [List.getLast?_append, h.last_of_members]⟩

section Steps

variable {fuel : Nat} {g cs rest : List Char}

theorem value_number {n : Number} (h : NumberText n cs) (hrest : EndsNumber rest) :
    value (fuel + 1) (cs ++ rest) = some (.number n, rest) := by
  have hnumeral := numeral_append h hrest
  obtain ⟨c, tail, rfl, hc⟩ := h.exists_head
  have hother : ∀ d : Char, d ≠ '-' → d.isDigit = false → c ≠ d := by
    rintro d hminus hdigit rfl
    rcases hc with rfl | hc
    · exact hminus rfl
    · rw [hc] at hdigit
      cases hdigit
  rw [List.cons_append] at hnumeral ⊢
  rw [value.eq_def]
  dsimp only
  -- The other forms start with a letter, a quote or a bracket.
  split
  · rename_i heq
    exact absurd (List.cons.inj heq).1 (hother 'n' (by decide) (by decide))
  · rename_i heq
    exact absurd (List.cons.inj heq).1 (hother 't' (by decide) (by decide))
  · rename_i heq
    exact absurd (List.cons.inj heq).1 (hother 'f' (by decide) (by decide))
  · rename_i heq
    exact absurd (List.cons.inj heq).1 (hother '"' (by decide) (by decide))
  · rename_i heq
    exact absurd (List.cons.inj heq).1 (hother '[' (by decide) (by decide))
  · rename_i heq
    exact absurd (List.cons.inj heq).1 (hother '\x7b' (by decide) (by decide))
  · rw [hnumeral, Option.map_some]

theorem value_string {s : Option String} (h : StringText s cs) (rest : List Char) :
    value (fuel + 1) (cs ++ rest) = some (.string s, rest) := by
  obtain ⟨tail, rfl, htail⟩ := h.exists_tail
  rw [List.cons_append, value.eq_def]
  simp only [htail rest, Option.map_some]

theorem value_noItems (hg : IsGap g) (rest : List Char) :
    value (fuel + 1) ('[' :: (g ++ [']']) ++ rest) = some (.array [], rest) := by
  have hclose := skipSpace_cons hg (show isSpace ']' = false by decide) rest
  rw [List.cons_append, List.append_assoc, List.singleton_append, value.eq_def]
  simp only [hclose]

theorem value_noMembers (hg : IsGap g) (rest : List Char) :
    value (fuel + 1) ('\x7b' :: (g ++ ['\x7d']) ++ rest) = some (.object [], rest) := by
  have hclose := skipSpace_cons hg (show isSpace '\x7d' = false by decide) rest
  rw [List.cons_append, List.append_assoc, List.singleton_append, value.eq_def]
  simp only [hclose]

theorem value_array {vs : List Json} (hg : IsGap g) (ho : Opens cs)
    (h : itemsTail fuel cs = some (vs, rest)) :
    value (fuel + 1) ('[' :: (g ++ cs)) = some (.array vs, rest) := by
  rw [value.eq_def]
  simp only [ho.skipSpace hg]
  split
  · exact absurd rfl (ho.head ']' rfl).2.1
  · rw [h, Option.map_some]

theorem value_object {ms : List (Option String × Json)} (hg : IsGap g) (ho : Opens cs)
    (h : membersTail fuel cs = some (ms, rest)) :
    value (fuel + 1) ('\x7b' :: (g ++ cs)) = some (.object ms, rest) := by
  rw [value.eq_def]
  simp only [ho.skipSpace hg]
  split
  · exact absurd rfl (ho.head '\x7d' rfl).2.2
  · rw [h, Option.map_some]

theorem itemsTail_last {v : Json} (hg : IsGap g)
    (h : value fuel cs = some (v, g ++ ']' :: rest)) :
    itemsTail (fuel + 1) cs = some ([v], rest) := by
  have hclose := skipSpace_cons hg (show isSpace ']' = false by decide) rest
  rw [itemsTail, h]
  simp only [hclose]

theorem itemsTail_next {v : Json} {vs : List Json} {g₁ g₂ ds : List Char} (hg₁ : IsGap g₁)
    (hg₂ : IsGap g₂) (ho : Opens ds) (h : value fuel cs = some (v, g₁ ++ ',' :: (g₂ ++ ds)))
    (hs : itemsTail fuel ds = some (vs, rest)) :
    itemsTail (fuel + 1) cs = some (v :: vs, rest) := by
  have hcomma := skipSpace_cons hg₁ (show isSpace ',' = false by decide) (g₂ ++ ds)
  rw [itemsTail, h]
  simp only [hcomma, ho.skipSpace hg₂, hs, Option.map_some]

theorem membersTail_last {key : Option String} {v : Json} {ks g₁ g₂ vs g₃ : List Char}
    (hk : StringText key ks) (hg₁ : IsGap g₁) (hg₂ : IsGap g₂) (ho : Opens vs) (hg₃ : IsGap g₃)
    (h : value fuel vs = some (v, g₃ ++ '\x7d' :: rest)) :
    membersTail (fuel + 1) (ks ++ (g₁ ++ ':' :: (g₂ ++ vs))) = some ([(key, v)], rest) := by
  obtain ⟨tail, rfl, htail⟩ := hk.exists_tail
  have hcolon := skipSpace_cons hg₁ (show isSpace ':' = false by decide) (g₂ ++ vs)
  have hclose := skipSpace_cons hg₃ (show isSpace '\x7d' = false by decide) rest
  rw [List.cons_append, membersTail]
  simp only [htail, hcolon, ho.skipSpace hg₂, h, hclose]

theorem membersTail_next {key : Option String} {v : Json} {ms : List (Option String × Json)}
    {ks g₁ g₂ vs g₃ g₄ ds : List Char} (hk : StringText key ks) (hg₁ : IsGap g₁) (hg₂ : IsGap g₂)
    (ho : Opens vs) (hg₃ : IsGap g₃) (hg₄ : IsGap g₄) (ho' : Opens ds)
    (h : value fuel vs = some (v, g₃ ++ ',' :: (g₄ ++ ds)))
    (hs : membersTail fuel ds = some (ms, rest)) :
    membersTail (fuel + 1) (ks ++ (g₁ ++ ':' :: (g₂ ++ vs))) = some ((key, v) :: ms, rest) := by
  obtain ⟨tail, rfl, htail⟩ := hk.exists_tail
  have hcolon := skipSpace_cons hg₁ (show isSpace ':' = false by decide) (g₂ ++ vs)
  have hcomma := skipSpace_cons hg₃ (show isSpace ',' = false by decide) (g₄ ++ ds)
  rw [List.cons_append, membersTail]
  simp only [htail, hcolon, ho.skipSpace hg₂, h, hcomma, ho'.skipSpace hg₄, hs, Option.map_some]

end Steps

/-! ## Reading phrases -/

def Phrase.IsRead (fuel : Nat) (cs rest : List Char) : Phrase → Prop
  | .value v => EndsNumber rest → Json.value fuel (cs ++ rest) = some (v, rest)
  | .items vs => itemsTail fuel (cs ++ rest) = some (vs, rest)
  | .members ms => membersTail fuel (cs ++ rest) = some (ms, rest)

theorem Written.isRead {p : Phrase} {cs : List Char} (h : Written p cs) {fuel : Nat}
    (hfuel : cs.length ≤ fuel) (rest : List Char) : p.IsRead fuel cs rest := by
  induction h generalizing fuel rest with
  | null | yes | no =>
    obtain ⟨fuel, rfl⟩ : ∃ n, fuel = n + 1 := ⟨fuel - 1, by simp at hfuel; omega⟩
    exact fun _ => rfl
  | number h =>
    have hpos := List.length_pos_iff.2 h.opens.nonempty
    obtain ⟨fuel, rfl⟩ : ∃ n, fuel = n + 1 := ⟨fuel - 1, by omega⟩
    exact value_number h
  | string h =>
    have hpos := List.length_pos_iff.2 h.opens.nonempty
    obtain ⟨fuel, rfl⟩ : ∃ n, fuel = n + 1 := ⟨fuel - 1, by omega⟩
    exact fun _ => value_string h rest
  | noItems hg =>
    obtain ⟨fuel, rfl⟩ : ∃ n, fuel = n + 1 := ⟨fuel - 1, by simp at hfuel; omega⟩
    exact fun _ => value_noItems hg rest
  | noMembers hg =>
    obtain ⟨fuel, rfl⟩ : ∃ n, fuel = n + 1 := ⟨fuel - 1, by simp at hfuel; omega⟩
    exact fun _ => value_noMembers hg rest
  | array hg hs ih =>
    simp only [List.length_cons, List.length_append] at hfuel
    obtain ⟨fuel, rfl⟩ : ∃ n, fuel = n + 1 := ⟨fuel - 1, by omega⟩
    intro _
    rw [List.cons_append, List.append_assoc]
    exact value_array hg (hs.opens.append rest) (ih (by omega) rest)
  | object hg hs ih =>
    simp only [List.length_cons, List.length_append] at hfuel
    obtain ⟨fuel, rfl⟩ : ∃ n, fuel = n + 1 := ⟨fuel - 1, by omega⟩
    intro _
    rw [List.cons_append, List.append_assoc]
    exact value_object hg (hs.opens.append rest) (ih (by omega) rest)
  | lastItem h hg ih =>
    simp only [List.length_cons, List.length_append, List.length_nil] at hfuel
    obtain ⟨fuel, rfl⟩ : ∃ n, fuel = n + 1 := ⟨fuel - 1, by omega⟩
    have hvalue := @ih fuel (by omega) _
      (endsNumber_append hg (endsNumber_cons (.inr (.inl rfl)) rest))
    rw [Phrase.IsRead, List.append_assoc, List.append_assoc, List.singleton_append]
    exact itemsTail_last hg hvalue
  | item h hg₁ hg₂ hs ih ihs =>
    simp only [List.length_cons, List.length_append] at hfuel
    obtain ⟨fuel, rfl⟩ : ∃ n, fuel = n + 1 := ⟨fuel - 1, by omega⟩
    have hvalue := fun after =>
      @ih fuel (by omega) _ (endsNumber_append hg₁ (endsNumber_cons (.inl rfl) after))
    have hitems := @ihs fuel (by omega) rest
    rw [Phrase.IsRead, List.append_assoc, List.append_assoc, List.cons_append, List.append_assoc]
    exact itemsTail_next hg₁ hg₂ (hs.opens.append rest) (hvalue _) hitems
  | lastMember hk hg₁ hg₂ h hg₃ ih =>
    simp only [List.length_cons, List.length_append, List.length_nil] at hfuel
    obtain ⟨fuel, rfl⟩ : ∃ n, fuel = n + 1 := ⟨fuel - 1, by omega⟩
    have hvalue := @ih fuel (by omega) _
      (endsNumber_append hg₃ (endsNumber_cons (.inr (.inr rfl)) rest))
    simp only [Phrase.IsRead, List.append_assoc, List.cons_append, List.nil_append]
    exact membersTail_last hk hg₁ hg₂ (h.opens.append _) hg₃ hvalue
  | member hk hg₁ hg₂ h hg₃ hg₄ hs ih ihs =>
    simp only [List.length_cons, List.length_append] at hfuel
    obtain ⟨fuel, rfl⟩ : ∃ n, fuel = n + 1 := ⟨fuel - 1, by omega⟩
    have hvalue := fun after =>
      @ih fuel (by omega) _ (endsNumber_append hg₃ (endsNumber_cons (.inl rfl) after))
    have hmembers := @ihs fuel (by omega) rest
    simp only [Phrase.IsRead, List.append_assoc, List.cons_append]
    exact membersTail_next hk hg₁ hg₂ (h.opens.append _) hg₃ hg₄ (hs.opens.append rest)
      (hvalue _) hmembers

/-- Every text of a value, with white space around it, is read as that value. -/
theorem read_of_written {v : Json} {g₁ cs g₂ : List Char} (hg₁ : IsGap g₁)
    (h : Written (.value v) cs) (hg₂ : IsGap g₂) : read (g₁ ++ (cs ++ g₂)) = some v := by
  have hends : EndsNumber g₂ := by
    have hend : EndsNumber [] := by simp [EndsNumber]
    simpa using endsNumber_append hg₂ hend
  have hrest : skipSpace g₂ = [] := List.dropWhile_eq_nil_iff.2 hg₂
  have hfuel : cs.length ≤ 2 * (g₁ ++ (cs ++ g₂)).length + 2 := by
    simp only [List.length_append]
    omega
  rw [read, (h.opens.append g₂).skipSpace hg₁, h.isRead hfuel g₂ hends]
  simp only [hrest, if_true]

end SingleWriter.Json
