import SingleWriter.Addr
import SingleWriter.Proofs.Trimming

/-!
# Addresses as texts

The text of an address is read back when its host is plain: not empty, tight, and without a
bracket at either end. Hosts with a colon are written in brackets, and what stands in brackets
is not trimmed, so for them tightness does not matter.

A host that was read is never empty and has no bracket at either end, but it may be blank or
start or end with white space when that was written inside of brackets. Such an address does
not come back from its own text unless its host has a colon.
-/

set_option autoImplicit false

namespace SingleWriter

namespace Text

variable {sep : Char} {cs : List Char}

theorem cutLast_eq_none_iff : cutLast sep cs = none ↔ sep ∉ cs := by
  induction cs with
  | nil => simp [cutLast]
  | cons c cs ih =>
    rw [cutLast]
    cases h : cutLast sep cs with
    | some cut =>
      have hmem : sep ∈ cs := by
        by_contra hn
        rw [ih.2 hn] at h
        cases h
      simp [hmem]
    | none => simp [ih.1 h, eq_comm]

theorem cutLast_append (before : List Char) {after : List Char} (h : sep ∉ after) :
    cutLast sep (before ++ sep :: after) = some (before, after) := by
  induction before with
  | nil => rw [List.nil_append, cutLast, cutLast_eq_none_iff.2 h, if_pos rfl]
  | cons c before ih => rw [List.cons_append, cutLast, ih]

theorem not_mem_decimal {c : Char} (h : c.isDigit = false) (n : Nat) : c ∉ decimal n := by
  intro hc
  rw [decimal_isDigit hc] at h
  cases h

end Text

namespace Addr

/-! ## Hosts -/

structure IsUnbracketed (host : List Char) : Prop where
  front : host.head? ≠ some '['
  back : host.getLast? ≠ some ']'

variable {host cs : List Char}

theorem IsUnbracketed.of_head? (h : IsUnbracketed host) :
    ∀ c ∈ host.head?, (c == '[') = false := by
  intro c hc
  simpa using fun heq : c = '[' => h.front (heq ▸ hc)

theorem IsUnbracketed.of_getLast? (h : IsUnbracketed host) :
    ∀ c ∈ host.getLast?, (c == ']') = false := by
  intro c hc
  simpa using fun heq : c = ']' => h.back (heq ▸ hc)

theorem isUnbracketed_bareHost (cs : List Char) : IsUnbracketed (bareHost cs) where
  front h := by
    have hhead := Text.head?_dropWhile (· == '[') (Text.trim cs) '[' (Text.head?_dropRightWhile h)
    exact absurd hhead (by decide)
  back h := by
    have hlast := Text.getLast?_dropRightWhile (· == ']') _ ']' h
    exact absurd hlast (by decide)

theorem bareHost_of_unbracketed (h : IsUnbracketed (Text.trim cs)) :
    bareHost cs = Text.trim cs := by
  rw [bareHost, Text.dropWhile_of_head? h.of_head?,
    Text.dropRightWhile_of_getLast? h.of_getLast?]

theorem bareHost_sublist_trim (cs : List Char) : (bareHost cs).Sublist (Text.trim cs) :=
  (Text.prefix_dropRightWhile _ _).sublist.trans (List.dropWhile_sublist _)

/-- Brackets keep the white space inside of them. -/
theorem bareHost_of_bracketed (hne : host ≠ []) (h : IsUnbracketed host) :
    bareHost ('[' :: (host ++ [']'])) = host := by
  have htight : Text.IsTight ('[' :: (host ++ [']'])) :=
    ⟨by simp [Text.isBlank], by simp [List.getLast?_cons, Text.isBlank]⟩
  have hfront : ∀ c ∈ (host ++ [']']).head?, (c == '[') = false := by
    rw [List.head?_append_of_ne_nil _ hne]
    exact h.of_head?
  rw [bareHost, Text.trim_of_tight htight, List.dropWhile_cons_of_pos (by decide),
    Text.dropWhile_of_head? hfront, Text.dropRightWhile_append (by simp),
    Text.dropRightWhile_of_getLast? h.of_getLast?]

/-- A host without a colon is read back exactly when it is tight. -/
theorem bareHost_eq_self_iff (h : IsUnbracketed host) :
    bareHost host = host ↔ Text.IsTight host := by
  constructor
  · intro heq
    have hle := bareHost_sublist_trim host
    rw [heq] at hle
    exact Text.trim_eq_self_iff.1 ((Text.trim_sublist host).antisymm hle)
  · intro ht
    have htrim := Text.trim_of_tight ht
    rw [bareHost_of_unbracketed (by rwa [htrim]), htrim]

/-! ## Reading a written address -/

theorem trim_withPort (host : List Char) (n : Nat) :
    Text.trim (host ++ ':' :: Text.decimal n) =
      host.dropWhile Text.isBlank ++ ':' :: Text.decimal n := by
  have hdrop : (host ++ ':' :: Text.decimal n).dropWhile Text.isBlank =
      host.dropWhile Text.isBlank ++ ':' :: Text.decimal n := by
    rw [List.dropWhile_append]
    split
    · rename_i hnil
      rw [List.isEmpty_iff.1 hnil, List.dropWhile_cons_of_neg (by decide), List.nil_append]
    · rfl
  rw [Text.trim, hdrop]
  apply Text.dropRightWhile_of_getLast?
  intro c hc
  have hne : Text.decimal n ≠ [] := Nat.toDigits_ne_nil
  rw [List.getLast?_append_of_ne_nil _ (by simp), List.getLast?_cons_of_ne_nil hne] at hc
  exact Text.isBlank_of_isDigit (Text.decimal_isDigit (List.mem_of_mem_getLast? hc))

/-- What is read from a host and a port is the bare host with that port. -/
theorem read_withPort (host : List Char) (port : UInt16) :
    read (host ++ ':' :: Text.decimal port.toNat) =
      if bareHost host = [] then .error (.emptyHost
        (String.ofList (host.dropWhile Text.isBlank ++ ':' :: Text.decimal port.toNat)))
      else .ok ⟨String.ofList (bareHost host), port⟩ := by
  have hbare : bareHost (host.dropWhile Text.isBlank) = bareHost host := by
    rw [bareHost, Text.trim_dropWhile]
    rfl
  have hcolon : ':' ∉ Text.decimal port.toNat := Text.not_mem_decimal (by decide) _
  simp only [read, trim_withPort, Text.cutLast_append _ hcolon, hbare, Text.trim_decimal,
    Text.word16?_decimal]
  cases bareHost host with
  | nil => rfl
  | cons c cs => rfl

/-- A host that was read is not empty and has no bracket at either end. -/
theorem of_read_eq_ok {a : Addr} (h : read cs = .ok a) :
    a.host.toList ≠ [] ∧ IsUnbracketed a.host.toList ∧
      ∃ before after, Text.cutLast ':' (Text.trim cs) = some (before, after) ∧
        bareHost before = a.host.toList := by
  rw [read] at h
  split at h
  · cases h
  · rename_i before after hcut
    split at h
    · cases h
    · rename_i hne
      split at h
      · cases h
      · cases h
        rw [String.toList_ofList]
        exact ⟨hne, isUnbracketed_bareHost before, before, after, hcut, rfl⟩

theorem chars_eq (a : Addr) : a.chars = a.hostChars ++ ':' :: Text.decimal a.port.toNat := rfl

section Texts

variable {a : Addr}

theorem bareHost_hostChars_eq_iff (hne : a.host.toList ≠ []) (h : IsUnbracketed a.host.toList) :
    bareHost a.hostChars = a.host.toList ↔ ':' ∈ a.host.toList ∨ Text.IsTight a.host.toList := by
  by_cases hcolon : ':' ∈ a.host.toList
  · simp [hostChars, hcolon, bareHost_of_bracketed hne h]
  · simp [hostChars, hcolon, bareHost_eq_self_iff h]

/-- The text of an address is read back exactly when its host is tight or has a colon. -/
theorem parse_text_eq_ok_iff (hne : a.host.toList ≠ []) (h : IsUnbracketed a.host.toList) :
    parse a.text = .ok a ↔ ':' ∈ a.host.toList ∨ Text.IsTight a.host.toList := by
  rw [← bareHost_hostChars_eq_iff hne h, parse, text, String.toList_ofList, chars_eq,
    read_withPort]
  constructor
  · intro hread
    split at hread
    · cases hread
    · have hhost := congrArg (String.toList ∘ Addr.host) (Except.ok.inj hread)
      simpa using hhost
  · intro hbare
    rw [hbare, if_neg hne, String.ofList_toList]

structure IsPlain (a : Addr) : Prop where
  nonempty : a.host ≠ ""
  tight : Text.IsTight a.host.toList
  unbracketed : IsUnbracketed a.host.toList

theorem IsPlain.parse_text (h : a.IsPlain) : parse a.text = .ok a :=
  (parse_text_eq_ok_iff (by simpa using h.nonempty) h.unbracketed).2 (.inr h.tight)

/-- The text of an address with a blank host has no host. -/
theorem parse_text_of_blank (h : Text.isBlankText a.host = true) :
    parse a.text = .error (.emptyHost (":" ++ Text.decimalText a.port.toNat)) := by
  have hblank : ∀ c ∈ a.host.toList, Text.isBlank c = true := List.all_eq_true.1 h
  have hcolon : ':' ∉ a.host.toList := fun hc => absurd (hblank _ hc) (by decide)
  have hdrop : a.host.toList.dropWhile Text.isBlank = [] := List.dropWhile_eq_nil_iff.2 hblank
  have hbare : bareHost a.host.toList = [] := by
    rw [bareHost, Text.trim_eq_nil_iff.2 hblank]
    rfl
  have hhost : a.hostChars = a.host.toList := if_neg hcolon
  rw [parse, text, String.toList_ofList, chars_eq, hhost, read_withPort, if_pos hbare, hdrop,
    List.nil_append, String.ofList_cons]
  rfl

end Texts

/-! ## Which read addresses come back -/

/-- Without brackets in the text, the host that is read is tight. -/
theorem isTight_of_read {a : Addr} (hopen : '[' ∉ cs) (hclose : ']' ∉ cs) (h : read cs = .ok a) :
    Text.IsTight a.host.toList := by
  obtain ⟨-, -, before, after, hcut, hbare⟩ := of_read_eq_ok h
  have hsub : (Text.trim before).Sublist cs := by
    have hwhole := (Text.cutLast_eq_some hcut).1
    have hbefore : before.Sublist (Text.trim cs) := by
      rw [hwhole]
      exact List.sublist_append_left before _
    exact (Text.trim_sublist before).trans (hbefore.trans (Text.trim_sublist cs))
  have hunbracketed : IsUnbracketed (Text.trim before) :=
    ⟨fun hf => hopen (hsub.mem (List.mem_of_mem_head? hf)),
      fun hb => hclose (hsub.mem (List.mem_of_mem_getLast? hb))⟩
  rw [← hbare, bareHost_of_unbracketed hunbracketed]
  exact Text.isTight_trim before

/-- An address that was read comes back from its own text exactly when its host is tight or has
a colon. It always does where the text had no brackets; one with a blank host never does. -/
theorem comes_back_iff {s : String} {a : Addr} (h : parse s = .ok a) :
    (parse a.text = .ok a ↔ ':' ∈ a.host.toList ∨ Text.IsTight a.host.toList) ∧
    (Text.isBlankText a.host = true →
      parse a.text = .error (.emptyHost (":" ++ Text.decimalText a.port.toNat))) ∧
    ('[' ∉ s.toList → ']' ∉ s.toList →
      parse a.text = .ok a ∧ Text.isBlankText a.host = false) := by
  obtain ⟨hne, hunbracketed, -⟩ := of_read_eq_ok h
  have hiff := parse_text_eq_ok_iff hne hunbracketed
  refine ⟨hiff, parse_text_of_blank, fun hopen hclose => ?_⟩
  have hback : parse a.text = .ok a := hiff.2 (.inr (isTight_of_read hopen hclose h))
  refine ⟨hback, Bool.eq_false_iff.2 fun hblank => ?_⟩
  rw [parse_text_of_blank hblank] at hback
  cases hback

/-- White space inside of brackets is kept: around a name it is lost when the text is read
again, around a host with colons it is not. -/
theorem comes_back_iff_of_blanksInBrackets :
    parse "[ db1 ]:3306" = .ok ⟨" db1 ", 3306⟩ ∧
      parse (Addr.text ⟨" db1 ", 3306⟩) ≠ .ok ⟨" db1 ", 3306⟩ ∧
      parse "[[ fd00::1 ]: +03306" = .ok ⟨" fd00::1 ", 3306⟩ ∧
      parse (Addr.text ⟨" fd00::1 ", 3306⟩) = .ok ⟨" fd00::1 ", 3306⟩ := by
  have hname : parse "[ db1 ]:3306" = .ok ⟨" db1 ", 3306⟩ := by decide +kernel
  have hcolons : parse "[[ fd00::1 ]: +03306" = .ok ⟨" fd00::1 ", 3306⟩ := by decide +kernel
  refine ⟨hname, fun hback => ?_, hcolons, (comes_back_iff hcolons).1.2 (.inl (by decide))⟩
  rcases (comes_back_iff hname).1.1 hback with hcolon | htight
  · exact absurd hcolon (by decide)
  · exact absurd (htight.head ' ' rfl) (by decide)

/-- A host of one blank in brackets is accepted, although its text has no host. -/
theorem blank_host_accepted : ¬ ∀ (s : String) (a : Addr), parse s = .ok a →
    parse a.text = .ok a ∧ Text.isBlankText a.host = false := by
  intro h
  have hblank := h "[ ]:3306" ⟨" ", 3306⟩ (by decide +kernel)
  exact absurd hblank.2 (by decide)

end Addr

end SingleWriter
