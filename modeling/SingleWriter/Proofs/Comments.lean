import SingleWriter.Backend.Comment
import SingleWriter.Proofs.JsonPrinting
import SingleWriter.Proofs.Trimming
import Mathlib.Data.List.Permutation

/-!
# Comments with foreign members

An annotation is carried by two members of an object, the override under `admin_status` and the
two flags under `role`. Other programs may keep members of their own in the same object. None of
them hides the annotation: the reader finds the two members wherever they stand and however the
object is written.
-/

set_option autoImplicit false

namespace SingleWriter.Annotation

variable {a : Annotation} {role : Role} {v : Json} {members : List (Option String × Json)}

/-! ## The two members -/

theorem sole?_of_perm {key : String} {rest : List (Option String × Json)}
    (h : members.Perm ((some key, v) :: rest)) (hrest : ∀ m ∈ rest, m.1 ≠ some key) :
    sole? key members = some (some v) := by
  have hfilter := h.filter fun m => decide (m.1 = some key)
  have hnone : rest.filter (fun m => decide (m.1 = some key)) = [] :=
    List.filter_eq_nil_iff.2 fun m hm => by simpa using hrest m hm
  rw [List.filter_cons_of_pos (by simp), hnone] at hfilter
  rw [sole?, List.perm_singleton.1 hfilter]

inductive FlagsOf (role : Role) : Json → Prop
  | mk {flags : List (Option String × Json)}
      (h : flags.Perm
        [(some "reader", .bool (role = .reader)), (some "writer", .bool (role = .writer))]) :
      FlagsOf role (.object flags)

theorem roleOf?_of_flagsOf (h : FlagsOf role v) : roleOf? v = some role := by
  obtain ⟨h⟩ := h
  rcases List.perm_pair.1 h with rfl | rfl <;> cases role <;> decide +kernel

theorem overrideOf?_optional (override : Option Status) :
    overrideOf? (.optional (override.map Status.name)) = some override := by
  cases override with
  | none => rfl
  | some s => cases s <;> decide +kernel

def IsForeign (key : Option String) : Prop :=
  ∃ name, key = some name ∧ name ≠ "admin_status" ∧ name ≠ "role"

inductive Carried (a : Annotation) (members : List (Option String × Json)) : Prop
  | mk {flags : Json} {foreign : List (Option String × Json)} (hflags : FlagsOf a.role flags)
      (hforeign : ∀ m ∈ foreign, IsForeign m.1)
      (h : members.Perm
        ((some "admin_status", .optional (a.override.map Status.name)) ::
          (some "role", flags) :: foreign))

/-- What is written for an annotation carries it. -/
theorem carried_commentObject (a : Annotation) :
    ∃ members, a.commentObject = .object members ∧ Carried a members :=
  ⟨_, rfl, .mk (.mk (.refl _)) (by simp) (.refl _)⟩

theorem isPrintable_commentObject (a : Annotation) : a.commentObject.IsPrintable := by
  obtain ⟨role, override⟩ := a
  cases override <;> simp [commentObject, Json.record, Json.optional, Json.text, Json.IsPrintable,
    Json.ArePrintableMembers]

theorem sole?_of_foreign {key : String} {first : Option String × Json}
    {foreign : List (Option String × Json)} (hkey : key = "admin_status" ∨ key = "role")
    (h : members.Perm ((some key, v) :: first :: foreign)) (hfirst : first.1 ≠ some key)
    (hforeign : ∀ m ∈ foreign, IsForeign m.1) : sole? key members = some (some v) := by
  refine sole?_of_perm h (List.forall_mem_cons.2 ⟨hfirst, fun m hm heq => ?_⟩)
  obtain ⟨name, hname, hstatus, hrole⟩ := hforeign m hm
  obtain rfl : name = key := Option.some.inj (hname.symm.trans heq)
  exact hkey.elim hstatus hrole

theorem ofMembers?_of_carried (h : Carried a members) : ofMembers? members = some a := by
  obtain ⟨hflags, hforeign, h⟩ := h
  have hkeys : members.all (·.1.isSome) = true := by
    rw [List.all_eq_true]
    intro m hm
    have hmem := h.mem_iff.1 hm
    simp only [List.mem_cons] at hmem
    rcases hmem with rfl | rfl | hm
    · rfl
    · rfl
    · obtain ⟨name, hname, -⟩ := hforeign m hm
      rw [hname, Option.isSome_some]
  have hstatus := sole?_of_foreign (.inl rfl) h (by simp) hforeign
  have hrole := sole?_of_foreign (.inr rfl) (h.trans (.swap ..)) (by simp) hforeign
  rw [ofMembers?, if_pos hkeys, hrole, hstatus]
  simp only [Option.getD_some, roleOf?_of_flagsOf hflags, overrideOf?_optional]

/-! ## The text around them -/

theorem readComment_object {before text after : List Char}
    (hbefore : ∀ c ∈ before, Text.isBlank c = true)
    (htext : Json.Written (.value (.object members)) text)
    (hafter : ∀ c ∈ after, Text.isBlank c = true) :
    readComment (before ++ (text ++ after)) = (ofMembers? members).getD {} := by
  obtain ⟨rest, rfl, hlast⟩ := htext.braces_of_object
  have htight : Text.IsTight ('\x7b' :: rest) :=
    ⟨by simp [Text.isBlank], by simp [List.getLast?_cons, hlast, Text.isBlank]⟩
  have htrim : Text.trim (before ++ ('\x7b' :: rest ++ after)) = '\x7b' :: rest := by
    rw [Text.trim_append_left hbefore, Text.trim_append_right hafter, Text.trim_of_tight htight]
  have hread : Json.read ('\x7b' :: rest) = some (.object members) := by
    simpa using Json.read_of_written Json.isGap_nil htext Json.isGap_nil
  rw [readComment, htrim]
  simp only [if_true, ofObject?, hread]

/-- Every role with every override is read back from its comment. -/
theorem ofComment_toComment (a : Annotation) : ofComment a.toComment = a := by
  rw [toComment]
  split_ifs with h
  · exact h.symm
  · obtain ⟨members, hobject, hcarried⟩ := carried_commentObject a
    have htext := Json.written_compact a.commentObject (isPrintable_commentObject a)
    rw [hobject] at htext
    have hnone : ∀ c ∈ [], Text.isBlank c = true := by simp
    have hread := readComment_object hnone htext hnone
    rw [List.nil_append, List.append_nil, ofMembers?_of_carried hcarried, Option.getD_some] at hread
    rw [ofComment, hobject, Json.compactText, String.toList_ofList, hread]

/-- However the two members of an annotation are written, wherever they stand among foreign
members of any value, and whatever white space is around the object, the annotation is read. -/
theorem ofComment_of_carried (a : Annotation) (members : List (Option String × Json))
    (before text after : String) (h : Carried a members)
    (hbefore : Text.isBlankText before = true) (hafter : Text.isBlankText after = true)
    (htext : Json.Written (.value (.object members)) text.toList) :
    ofComment (some (before ++ text ++ after)) = a := by
  have hread := readComment_object (List.all_eq_true.1 hbefore) htext (List.all_eq_true.1 hafter)
  rw [ofComment]
  simp only [String.toList_append, List.append_assoc, hread, ofMembers?_of_carried h,
    Option.getD_some]

/-- A pinned writer under an object with a nested key `role` and an escape that names no text. -/
theorem ofComment_of_carried_nested :
    let a : Annotation := { role := .writer, override := some .offlineHard }
    let note : Json := .array [.number { whole := ['1'], exponent := some (false, ['9']) },
      .object [(some "role", .string none)]]
    let flags : Json := .object [(some "writer", .bool true), (some "reader", .bool false)]
    let members := [(some "a", note), (some "role", flags),
      (some "admin_status", .text "OFFLINE_HARD")]
    let text := "\x7b \"\\u0061\":[1E+9\t,\x7b\"role\" :\"\\ud800\"\x7d],\"role\":" ++
      "\x7b\"writer\":true,\"reader\":false\x7d,\"admin_status\":\"OFFLINE_HARD\"\x7d"
    Carried a members ∧ Json.Written (.value (.object members)) text.toList ∧
      ofComment (some ("\u3000" ++ text ++ "\n")) = a := by
  intro a note flags members text
  have hforeign : ∀ m ∈ [((some "a", note) : Option String × Json)], IsForeign m.1 := by
    simp [IsForeign]
  have hcarried : Carried a members :=
    .mk (.mk (.swap ..)) hforeign (List.reverse_perm members).symm
  have hquoted := fun name => Json.stringText_quoted (some name)
  have hblank : Json.IsGap [' '] := by simp [Json.IsGap, Json.isSpace]
  have htab : Json.IsGap ['\t'] := by simp [Json.IsGap, Json.isSpace]
  have hkey : Json.StringText (some "a") ['"', '\\', 'u', '0', '0', '6', '1', '"'] :=
    .spelled (.cons (.long rfl rfl rfl rfl) .nil) (.single rfl rfl .nil)
  have hnumber : Json.NumberText { whole := ['1'], exponent := some (false, ['9']) }
      ['1', 'E', '+', '9'] :=
    .positive rfl (.mk ⟨⟨by simp, by simp⟩, by simp⟩ .absent
      (.plus (.inr rfl) ⟨by simp, by simp⟩))
  have hinner : Json.Written (.value (.object [(some "role", .string none)])) _ :=
    .object Json.isGap_nil (.lastMember (hquoted "role") hblank Json.isGap_nil
      (.string (Json.stringText_quoted none)) Json.isGap_nil)
  have hnote : Json.Written (.value note) _ := Json.written_array
    (.item (.number hnumber) htab Json.isGap_nil (.lastItem hinner Json.isGap_nil))
  have hflags := Json.written_compact flags
    (by simp [flags, Json.IsPrintable, Json.ArePrintableMembers])
  have htext : Json.Written (.value (.object members)) text.toList := by
    have h : Json.Written (.value (.object members)) _ :=
      .object hblank (Json.written_member hkey hnote
        (Json.written_member (hquoted "role") hflags
          (Json.written_lastMember (hquoted "admin_status") (.string (hquoted "OFFLINE_HARD")))))
    convert h using 1
    decide +kernel
  exact ⟨hcarried, htext,
    ofComment_of_carried a members "\u3000" text "\n" hcarried (by decide) (by decide) htext⟩

end SingleWriter.Annotation
