/-!
# Cutting a text at a separator

`pieces` cuts at every separator, `cutLast` at the last one only.
-/

set_option autoImplicit false

namespace SingleWriter.Text

def pieces (sep : Char) : List Char → List (List Char)
  | [] => [[]]
  | c :: cs =>
    if c = sep then [] :: pieces sep cs
    else match pieces sep cs with
      | [] => [[c]]
      | p :: ps => (c :: p) :: ps

def cutLast (sep : Char) : List Char → Option (List Char × List Char)
  | [] => none
  | c :: cs =>
    match cutLast sep cs with
    | some (before, after) => some (c :: before, after)
    | none => if c = sep then some ([], cs) else none

def occursIn (pattern : List Char) : List Char → Bool
  | [] => pattern.isEmpty
  | c :: cs => pattern.isPrefixOf (c :: cs) || occursIn pattern cs

theorem pieces_ne_nil (sep : Char) (cs : List Char) : pieces sep cs ≠ [] := by
  cases cs with
  | nil => simp [pieces]
  | cons c cs =>
    simp only [pieces]
    split
    · simp
    · split <;> simp

theorem cutLast_eq_some {sep : Char} {cs before after : List Char}
    (h : cutLast sep cs = some (before, after)) :
    cs = before ++ sep :: after ∧ sep ∉ after := by
  induction cs generalizing before after with
  | nil => simp [cutLast] at h
  | cons c cs ih =>
    simp only [cutLast] at h
    split at h
    · rename_i b a hb
      obtain ⟨rfl, rfl⟩ : c :: b = before ∧ a = after := by simpa using h
      obtain ⟨rfl, hn⟩ := ih hb
      exact ⟨rfl, hn⟩
    · rename_i hnone
      split at h
      · rename_i hc
        obtain ⟨rfl, rfl⟩ : [] = before ∧ cs = after := by simpa using h
        refine ⟨by simp [hc], ?_⟩
        clear ih h
        induction cs with
        | nil => simp
        | cons d ds ih =>
          simp only [cutLast] at hnone
          split at hnone
          · simp at hnone
          · rename_i hds
            split at hnone
            · simp at hnone
            · rename_i hd
              simp only [List.mem_cons, not_or]
              exact ⟨fun e => hd e.symm, ih hds⟩
      · simp at h

end SingleWriter.Text
