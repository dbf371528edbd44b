import SingleWriter.Settings.Validation
import SingleWriter.Proofs.Discoveries
import SingleWriter.Proofs.Trimming
import Mathlib.Data.List.Forall2

/-!
# Where a pass starts

Valid settings name their seeds without a malformed item, and hostgroups that differ. They
name no seed exactly when the list of hosts is made of commas and blanks alone: such a list
is not blank as a text, so it is not refused, and yet it has no items. A pass without seeds
ends at once. With a seed, discovery says of each failure which node it is about, so that the
cluster is called unavailable only after its members were found.
-/

set_option autoImplicit false

namespace SingleWriter

open SingleWriter.Action

/-! ## Lists of addresses -/

namespace Text

theorem forall_mem_pieces {sep : Char} {cs : List Char} {P : Char → Prop} :
    (∀ p ∈ pieces sep cs, ∀ c ∈ p, P c) ↔ ∀ c ∈ cs, c = sep ∨ P c := by
  induction cs with
  | nil => simp [pieces]
  | cons c cs ih =>
    -- A separator opens an empty piece; any other character is in the first piece.
    by_cases hc : c = sep
    · simp [pieces, hc, ← ih]
    · cases hp : pieces sep cs with
      | nil => exact absurd hp (pieces_ne_nil sep cs)
      | cons p ps => simp [pieces, hc, hp, ← ih, and_assoc]

end Text

namespace Addr

theorem listItems_eq_nil_iff {cs : List Char} :
    listItems cs = [] ↔ ∀ c ∈ cs, c = ',' ∨ Text.isBlank c = true := by
  rw [← Text.forall_mem_pieces, listItems, List.filter_eq_nil_iff]
  simp [Text.trim_eq_nil_iff]

theorem forall₂_of_mapM {items : List (List Char)} {addrs : List Addr}
    (h : items.mapM read = .ok addrs) :
    List.Forall₂ (fun item a => read item = .ok a) items addrs := by
  induction items generalizing addrs with
  | nil =>
    cases h
    exact .nil
  | cons item items ih =>
    rw [List.mapM_cons] at h
    cases hitem : read item with
    | error e =>
      rw [hitem] at h
      cases h
    | ok a =>
      cases hrest : items.mapM read with
      | error e =>
        rw [hitem, hrest] at h
        cases h
      | ok rest =>
        rw [hitem, hrest] at h
        cases h
        exact .cons hitem (ih hrest)

/-- Where the strict reader accepts a list, the lenient one skips nothing. -/
theorem parseListLenient_of_parseList {list : String} {addrs : List Addr}
    (h : parseList list = .ok addrs) : parseListLenient list = addrs := by
  have hread := forall₂_of_mapM h
  rw [parseListLenient]
  clear h
  generalize listItems list.toList = items at hread
  induction hread with
  | nil => rfl
  | cons hitem _ ih => rw [List.filterMap_cons_some (by rw [hitem]; rfl), ih]

theorem eq_nil_iff_of_parseList {list : String} {addrs : List Addr}
    (h : parseList list = .ok addrs) :
    addrs = [] ↔ ∀ c ∈ list.toList, c = ',' ∨ Text.isBlank c = true := by
  have hlength := (forall₂_of_mapM h).length_eq
  rw [← listItems_eq_nil_iff, ← List.length_eq_zero_iff, ← hlength, List.length_eq_zero_iff]

end Addr

/-! ## Passes and their seeds -/

namespace Reconciler

variable {σ : Type} (r : Reconciler σ) {req : PassRequest} {s t : σ}

theorem reconcile_without_seeds (h : req.seeds = []) :
    r.reconcile req s = .error .clusterUnavailable s := by
  have hsurvey : r.survey req.seeds s = .error .clusterUnavailable s := by
    rw [survey, h]
    exact bind_eq_error.2 (.inl rfl)
  exact bind_eq_error.2 (.inl hsurvey)

/-- From a seed the cluster is unavailable only after its members were found. -/
theorem members_of_reconcile_unavailable (h : req.seeds ≠ [])
    (hfail : r.reconcile req s = .error .clusterUnavailable t) :
    ∃ members u, Discovery.discoverAny r.nodes req.seeds s = .ok members u := by
  cases hmembers : Discovery.discoverAny r.nodes req.seeds s with
  | ok members u => exact ⟨members, u, rfl⟩
  | error e u =>
    have hsurvey : r.survey req.seeds s = .error e u := bind_eq_error.2 (.inl hmembers)
    have hpass : r.reconcile req s = .error e u := bind_eq_error.2 (.inl hsurvey)
    have hfails : Fails (· ≠ .clusterUnavailable) (Discovery.discoverAny r.nodes req.seeds) :=
      Discovery.fails_firstUseful r.nodes (by simp [NodeError.ofAddr]) (by simp)
        fun hnil => absurd hnil h
    have hne := hfails.error hmembers
    rw [hfail] at hpass
    cases hpass
    exact absurd rfl hne

end Reconciler

/-! ## Valid settings -/

namespace Settings

variable {s : Settings}

theorem problemIf_eq_nil_iff {condition : Bool} {p : Problem} :
    problemIf condition p = [] ↔ condition = false := by
  cases condition <;> simp [problemIf]

theorem listProblems_eq_nil_iff {problem : AddrError → Problem} {list : String} :
    listProblems problem list = [] ↔ ∃ addrs, Addr.parseList list = .ok addrs := by
  unfold listProblems
  cases Addr.parseList list <;> simp

theorem parseList_of_valid (h : s.isValid = true) :
    Addr.parseList s.cluster.hosts = .ok s.request.seeds := by
  have hhosts : (if Text.isBlankText s.cluster.hosts then [.noHosts]
      else listProblems .hosts s.cluster.hosts) = [] := by
    simp only [isValid, problems, List.isEmpty_iff, List.append_eq_nil_iff] at h
    exact h.1.1.1.1.1.1.1
  cases hblank : Text.isBlankText s.cluster.hosts with
  | true =>
    rw [hblank, if_pos rfl] at hhosts
    cases hhosts
  | false =>
    rw [hblank, if_neg Bool.false_ne_true, listProblems_eq_nil_iff] at hhosts
    obtain ⟨addrs, haddrs⟩ := hhosts
    rw [haddrs, request, seeds, Addr.parseListLenient_of_parseList haddrs]

theorem groups_of_valid (h : s.isValid = true) :
    s.request.writerGroup ≠ s.request.readerGroup := by
  simp only [isValid, problems, List.isEmpty_iff, List.append_eq_nil_iff, problemIf_eq_nil_iff,
    decide_eq_false_iff_not] at h
  exact h.1.1.1.1.1.2

def NamesNoHost (s : Settings) : Prop :=
  ∀ c ∈ s.cluster.hosts.toList, c = ',' ∨ Text.isBlank c = true

instance (s : Settings) : Decidable s.NamesNoHost :=
  List.decidableBAll (fun c => c = ',' ∨ Text.isBlank c = true) s.cluster.hosts.toList

/-- Valid settings skip no host and have seeds unless they name no host; a pass with seeds
calls the cluster unavailable only after it has found members, and a pass without them always
does, in the state it started from. -/
theorem start_of_valid (h : s.isValid = true) :
    s.request.writerGroup ≠ s.request.readerGroup ∧
    Addr.parseList s.cluster.hosts = .ok s.request.seeds ∧
    (s.request.seeds = [] ↔ s.NamesNoHost) ∧
    ∀ {σ : Type} (r : Reconciler σ) (x : σ),
      (s.NamesNoHost → r.reconcile s.request x = .error .clusterUnavailable x) ∧
      (¬ s.NamesNoHost → ∀ y, r.reconcile s.request x = .error .clusterUnavailable y →
        ∃ members u, Discovery.discoverAny r.nodes s.request.seeds x = .ok members u) := by
  have hparse := parseList_of_valid h
  have hseeds : s.request.seeds = [] ↔ s.NamesNoHost := Addr.eq_nil_iff_of_parseList hparse
  refine ⟨groups_of_valid h, hparse, hseeds, fun r x => ⟨fun hno => ?_, fun hsome y hfail => ?_⟩⟩
  · exact r.reconcile_without_seeds (hseeds.2 hno)
  · exact r.members_of_reconcile_unavailable (fun hnil => hsome (hseeds.1 hnil)) hfail

theorem start_of_valid_of_twoHosts :
    let s : Settings := { cluster := { hosts := "db1:3306, ,db2:3306" } }
    s.isValid = true ∧ ¬ s.NamesNoHost ∧
      Addr.parseList s.cluster.hosts = .ok [⟨"db1", 3306⟩, ⟨"db2", 3306⟩] ∧
      s.request.seeds = [⟨"db1", 3306⟩, ⟨"db2", 3306⟩] := by
  intro s
  have hvalid : s.isValid = true := by decide +kernel
  have hparse : Addr.parseList s.cluster.hosts = .ok [⟨"db1", 3306⟩, ⟨"db2", 3306⟩] := by
    decide +kernel
  obtain ⟨-, hseeds, -⟩ := start_of_valid hvalid
  exact ⟨hvalid, by decide +kernel, hparse, Except.ok.inj (hseeds.symm.trans hparse)⟩

/-- One comma is accepted as a list of hosts. -/
theorem valid_without_seeds : ¬ ∀ s : Settings, s.isValid = true →
    s.request.seeds ≠ [] ∧ s.request.writerGroup ≠ s.request.readerGroup := by
  intro h
  have hcomma := h { cluster := { hosts := "," } } (by decide +kernel)
  exact hcomma.1 (by decide +kernel)

end Settings

end SingleWriter
