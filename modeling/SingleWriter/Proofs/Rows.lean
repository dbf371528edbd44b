import SingleWriter.Proofs.Tables
import SingleWriter.BackendSet
import Mathlib.Data.List.Perm.Subperm

/-!
# Rows of a set of backends

The row of an address in a hostgroup describes a set of backends: what each operation
does is said by the row it leaves at every hostgroup and address. A row is reworked when
only its status and its role may have changed; its key, its columns and the operator's
override are kept.
-/

set_option autoImplicit false

namespace SingleWriter

namespace Backend

def Reworked (old new : Backend) : Prop :=
  ∃ status role, new = (old.withStatus status).withRole role

theorem reworked_refl (b : Backend) : Reworked b b := ⟨b.status, b.annotation.role, rfl⟩

theorem reworked_withStatus (b : Backend) (status : Status) : Reworked b (b.withStatus status) :=
  ⟨status, b.annotation.role, rfl⟩

theorem reworked_withRole (b : Backend) (status : Status) (role : Role) :
    Reworked b ((b.withStatus status).withRole role) := ⟨status, role, rfl⟩

theorem Reworked.trans {a b c : Backend} (hab : Reworked a b) (hbc : Reworked b c) :
    Reworked a c := by
  obtain ⟨s, r, rfl⟩ := hab
  obtain ⟨s', r', rfl⟩ := hbc
  exact ⟨s', r', rfl⟩

theorem Reworked.isPinned_eq {a b : Backend} (h : Reworked a b) : b.isPinned = a.isPinned := by
  obtain ⟨s, r, rfl⟩ := h
  rfl

/-- A reworked row with the same role differs from the old one only by its status. -/
theorem Reworked.eq_withStatus {a b : Backend} (h : Reworked a b)
    (hr : a.annotation = b.annotation) : b = a.withStatus b.status := by
  obtain ⟨s, r, rfl⟩ := h
  have hrole : a.annotation.role = r := congrArg Annotation.role hr
  subst hrole
  rfl

theorem Reworked.exists_new {g : UInt32} {a : Addr} {role : Role} {status : Status} {b : Backend}
    (h : Reworked (new g a role status) b) : ∃ role status, b = new g a role status := by
  obtain ⟨s, r, rfl⟩ := h
  exact ⟨r, s, rfl⟩

theorem isOnline_iff {b : Backend} : b.isOnline = true ↔ b.status = .online := by
  simp [isOnline]

theorem isRemoved_iff {b : Backend} : b.isRemoved = true ↔ b.status = .offlineHard := by
  simp [isRemoved]

theorem isRemoved_of_isOnline {b : Backend} (h : b.isOnline = true) : b.isRemoved = false := by
  rw [isOnline_iff] at h
  simp [isRemoved, h]

theorem isOnline_withStatus (b : Backend) (status : Status) :
    (b.withStatus status).isOnline = decide (status = .online) := rfl

theorem withStatus_withStatus (b : Backend) (s t : Status) :
    (b.withStatus s).withStatus t = b.withStatus t := rfl

theorem isPinned_new (hostgroup : UInt32) (addr : Addr) (role : Role) (status : Status) :
    (new hostgroup addr role status).isPinned = false := rfl

end Backend

namespace BackendSet

variable (s : BackendSet)

theorem find?_eq_some_iff {s : BackendSet} {g : UInt32} {a : Addr} {b : Backend} :
    s.find? g a = some b ↔ b ∈ s.rows ∧ b.hostgroup = g ∧ b.addr = a := by
  simp [find?, Table.get?_eq_some_iff, Backend.key]

theorem find?_of_mem {s : BackendSet} {b : Backend} (h : b ∈ s.rows) :
    s.find? b.hostgroup b.addr = some b := Table.get?_key h

theorem find?_insert (b : Backend) (g : UInt32) (a : Addr) :
    find? (s.insert b) g a = if b.hostgroup = g ∧ b.addr = a then some b else s.find? g a := by
  simp [find?, Table.get?_insert, Backend.key]

theorem find?_change (g : UInt32) (a : Addr) (f : Backend → Backend)
    (hf : ∀ b, (f b).key = b.key) (g' : UInt32) (a' : Addr) :
    find? (s.change ⟨g, a⟩ f hf) g' a' =
      if g = g' ∧ a = a' then (s.find? g' a').map f else s.find? g' a' := by
  simp [find?, Table.get?_change]

theorem find?_setStatus (g : UInt32) (a : Addr) (status : Status) (g' : UInt32) (a' : Addr) :
    (s.setStatus ⟨g, a⟩ status).find? g' a' =
      if g = g' ∧ a = a' then (s.find? g' a').map (Backend.withStatus status)
      else s.find? g' a' :=
  find?_change s g a _ _ g' a'

theorem get?_setStatus (k : Backend.Key) (status : Status) (j : Backend.Key) :
    (s.setStatus k status).get? j =
      if k = j then (s.get? j).map (Backend.withStatus status) else s.get? j :=
  Table.get?_change s k (Backend.withStatus status) (Backend.key_withStatus status) j

theorem find?_mapRows (f : Backend → Backend) (hf : ∀ b, (f b).key = b.key) (g : UInt32)
    (a : Addr) : find? (s.mapRows f hf) g a = (s.find? g a).map f :=
  Table.get?_mapRows s f hf ⟨g, a⟩

/-! ## Rows by status -/

variable {s}

theorem mem_inHostgroup {g : UInt32} {b : Backend} :
    b ∈ s.inHostgroup g ↔ s.find? g b.addr = some b := by
  simp [inHostgroup, find?_eq_some_iff]

theorem mem_onlineIn {g : UInt32} {b : Backend} :
    b ∈ s.onlineIn g ↔ s.find? g b.addr = some b ∧ b.isOnline = true := by
  simp [onlineIn, mem_inHostgroup]

theorem mem_liveIn {g : UInt32} {b : Backend} :
    b ∈ s.liveIn g ↔ s.find? g b.addr = some b ∧ b.isRemoved = false := by
  simp [liveIn, mem_inHostgroup]

theorem nodup_addr_inHostgroup (s : BackendSet) (g : UInt32) :
    ((s.inHostgroup g).map Backend.addr).Nodup := by
  have hkeys : ((s.inHostgroup g).map Backend.key).Nodup :=
    (List.Sublist.map Backend.key List.filter_sublist).nodup s.nodup
  have hmap : (s.inHostgroup g).map Backend.key =
      ((s.inHostgroup g).map Backend.addr).map (Backend.Key.mk g) := by
    rw [List.map_map]
    apply List.map_congr_left
    intro b hb
    have hg := (List.mem_filter.1 hb).2
    simp only [decide_eq_true_eq] at hg
    rw [Backend.key, hg]
    rfl
  rw [hmap] at hkeys
  exact List.Nodup.of_map _ hkeys

theorem nodup_addr_filter (s : BackendSet) (g : UInt32) (p : Backend → Bool) :
    (((s.inHostgroup g).filter p).map Backend.addr).Nodup :=
  (List.Sublist.map Backend.addr List.filter_sublist).nodup (nodup_addr_inHostgroup s g)

theorem nodup_addr_onlineIn (s : BackendSet) (g : UInt32) :
    ((s.onlineIn g).map Backend.addr).Nodup := nodup_addr_filter s g _

def OnlineAt (s : BackendSet) (g : UInt32) (a : Addr) : Prop :=
  ∃ b, s.find? g a = some b ∧ b.isOnline = true

theorem mem_addr_onlineIn {g : UInt32} {a : Addr} :
    a ∈ (s.onlineIn g).map Backend.addr ↔ s.OnlineAt g a := by
  constructor
  · intro h
    obtain ⟨b, hb, rfl⟩ := List.mem_map.1 h
    exact ⟨b, mem_onlineIn.1 hb⟩
  · rintro ⟨b, hb, ho⟩
    have ha := (find?_eq_some_iff.1 hb).2.2
    subst ha
    exact List.mem_map.2 ⟨b, mem_onlineIn.2 ⟨hb, ho⟩, rfl⟩

theorem isEmpty_onlineIn_iff {g : UInt32} :
    (s.onlineIn g).isEmpty = true ↔ ∀ a b, s.find? g a = some b → b.isOnline = false := by
  rw [List.isEmpty_iff, List.eq_nil_iff_forall_not_mem]
  constructor
  · intro h a b hb
    have ha := (find?_eq_some_iff.1 hb).2.2
    subst ha
    by_contra ho
    exact h b (mem_onlineIn.2 ⟨hb, by simpa using ho⟩)
  · intro h b hb
    have hmem := mem_onlineIn.1 hb
    rw [h b.addr b hmem.1] at hmem
    exact absurd hmem.2 (by decide)

theorem length_onlineIn_le_one_iff {g : UInt32} :
    (s.onlineIn g).length ≤ 1 ↔ ∀ a b, s.OnlineAt g a → s.OnlineAt g b → a = b := by
  have hmem : ∀ a, a ∈ (s.onlineIn g).map Backend.addr ↔ s.OnlineAt g a := fun _ =>
    mem_addr_onlineIn
  have hnodup := nodup_addr_onlineIn s g
  rw [← List.length_map (f := Backend.addr)]
  generalize (s.onlineIn g).map Backend.addr = addrs at hmem hnodup
  constructor
  · intro hlen a b ha hb
    rw [← hmem] at ha hb
    match addrs, hlen with
    | [], _ => cases ha
    | [c], _ => rw [List.mem_singleton.1 ha, List.mem_singleton.1 hb]
  · intro h
    match addrs with
    | [] => simp
    | [_] => simp
    | a :: b :: rest =>
      have hab := h a b ((hmem a).1 (by simp)) ((hmem b).1 (by simp))
      simp [hab] at hnodup

/-- Rows of a hostgroup are counted by their addresses. -/
theorem length_filter_inHostgroup_le {t : BackendSet} {g : UInt32} {p q : Backend → Bool}
    (h : ∀ a b, s.find? g a = some b → p b = true → ∃ c, t.find? g a = some c ∧ q c = true) :
    ((s.inHostgroup g).filter p).length ≤ ((t.inHostgroup g).filter q).length := by
  have hnodup := nodup_addr_filter s g p
  have hsub : ((s.inHostgroup g).filter p).map Backend.addr ⊆
      ((t.inHostgroup g).filter q).map Backend.addr := by
    intro a ha
    obtain ⟨b, hb, rfl⟩ := List.mem_map.1 ha
    obtain ⟨hin, hp⟩ := List.mem_filter.1 hb
    obtain ⟨c, hc, hq⟩ := h b.addr b (mem_inHostgroup.1 hin) hp
    have haddr := (find?_eq_some_iff.1 hc).2.2
    refine List.mem_map.2 ⟨c, List.mem_filter.2 ⟨mem_inHostgroup.2 ?_, hq⟩, haddr⟩
    rw [haddr]
    exact hc
  simpa using (hnodup.subperm hsub).length_le

/-- The online rows of a hostgroup are known from the addresses that have one. -/
theorem addr_onlineIn_eq_toList {g : UInt32} {w : Option Addr}
    (h : ∀ a, s.OnlineAt g a ↔ w = some a) :
    (s.onlineIn g).map Backend.addr = w.toList := by
  have hmem : ∀ a, a ∈ (s.onlineIn g).map Backend.addr ↔ w = some a := fun a =>
    mem_addr_onlineIn.trans (h a)
  have hnodup := nodup_addr_onlineIn s g
  generalize (s.onlineIn g).map Backend.addr = addrs at hmem hnodup
  cases addrs with
  | nil =>
    cases w with
    | none => rfl
    | some a => exact absurd ((hmem a).2 rfl) (by simp)
  | cons a rest =>
    have hw := (hmem a).1 (by simp)
    subst hw
    cases rest with
    | nil => rfl
    | cons c rest =>
      have hc := (hmem c).1 (by simp)
      simp only [Option.some.injEq] at hc
      simp [hc] at hnodup

theorem isPinned_eq_true_iff {a : Addr} :
    s.isPinned a = true ↔ ∃ g b, s.find? g a = some b ∧ b.isPinned = true := by
  simp only [isPinned, List.any_eq_true, Bool.and_eq_true, decide_eq_true_eq]
  constructor
  · rintro ⟨b, hb, rfl, hp⟩
    exact ⟨b.hostgroup, b, find?_of_mem hb, hp⟩
  · rintro ⟨g, b, hb, hp⟩
    obtain ⟨hm, -, ha⟩ := find?_eq_some_iff.1 hb
    exact ⟨b, hm, ha, hp⟩

theorem isPinned_eq_false_of_find? {g : UInt32} {a : Addr} {b : Backend}
    (h : s.isPinned a = false) (hb : s.find? g a = some b) : b.isPinned = false := by
  by_contra hp
  have htrue : s.isPinned a = true := isPinned_eq_true_iff.2 ⟨g, b, hb, by simpa using hp⟩
  rw [h] at htrue
  cases htrue

/-! ## Live addresses -/

def HasLive (s : BackendSet) (a : Addr) : Prop :=
  ∃ g b, s.find? g a = some b ∧ b.isRemoved = false

theorem mem_addr_live {a : Addr} :
    a ∈ (s.rows.filter (!·.isRemoved)).map Backend.addr ↔ s.HasLive a := by
  constructor
  · intro h
    obtain ⟨b, hb, rfl⟩ := List.mem_map.1 h
    obtain ⟨hm, hl⟩ := List.mem_filter.1 hb
    exact ⟨b.hostgroup, b, find?_of_mem hm, by simpa using hl⟩
  · rintro ⟨g, b, hb, hl⟩
    obtain ⟨hm, -, rfl⟩ := find?_eq_some_iff.1 hb
    exact List.mem_map.2 ⟨b, List.mem_filter.2 ⟨hm, by simpa using hl⟩, rfl⟩

/-- The last companion is the only live address beside the writer, which is live too. -/
theorem lastCompanion?_eq_some_iff {w d : Addr} :
    s.lastCompanion? w = some d ↔ d ≠ w ∧ ∀ a, s.HasLive a ↔ a = w ∨ a = d := by
  have hlive : ∀ a, a ∈ (s.rows.filter (!·.isRemoved)).map Backend.addr ↔ s.HasLive a :=
    fun _ => mem_addr_live
  simp only [lastCompanion?]
  generalize (s.rows.filter (!·.isRemoved)).map Backend.addr = live at hlive
  split
  · rename_i c others hl
    have hothers : ∀ a, a ∈ c :: others ↔ s.HasLive a ∧ a ≠ w := by
      intro a
      rw [← hl, List.mem_filter, hlive]
      simp
    obtain ⟨hc, hcw⟩ := (hothers c).1 (by simp)
    have hcond : (w ∈ live ∧ (others.all fun x => decide (x = c)) = true) ↔
        s.HasLive w ∧ ∀ a ∈ others, a = c := by
      rw [hlive]
      simp
    constructor
    · intro h
      split at h
      · rename_i hif
        have hw := hcond.1 hif
        obtain rfl : c = d := by simpa using h
        refine ⟨hcw, fun a => ⟨fun ha => ?_, ?_⟩⟩
        · by_cases haw : a = w
          · exact .inl haw
          · rcases List.mem_cons.1 ((hothers a).2 ⟨ha, haw⟩) with rfl | hmem
            · exact .inr rfl
            · exact .inr (hw.2 a hmem)
        · rintro (rfl | rfl)
          · exact hw.1
          · exact hc
      · simp at h
    · rintro ⟨hne, h⟩
      have hd : ∀ a ∈ c :: others, a = d := by
        intro a ha
        obtain ⟨hla, haw⟩ := (hothers a).1 ha
        exact ((h a).1 hla).resolve_left haw
      obtain rfl : c = d := hd c (by simp)
      rw [if_pos (hcond.2 ⟨(h w).2 (.inl rfl), fun a ha => hd a (by simp [ha])⟩)]
  · rename_i hl
    have hothers : ∀ a, ¬ (s.HasLive a ∧ a ≠ w) := by
      intro a ha
      have hmiss := List.filter_eq_nil_iff.1 hl a ((hlive a).2 ha.1)
      simp [ha.2] at hmiss
    constructor
    · intro h
      simp at h
    · rintro ⟨hne, h⟩
      exact absurd ⟨(h d).2 (.inr rfl), hne⟩ (hothers d)

/-! ## Reshaped sets -/

structure Reshaped (groups : List UInt32) (s t : BackendSet) : Prop where
  kept : ∀ {g a b}, s.find? g a = some b → ∃ c, t.find? g a = some c ∧ b.Reworked c
  added : ∀ {g a c}, t.find? g a = some c → s.find? g a = none →
    g ∈ groups ∧ ∃ role status, c = Backend.new g a role status

variable {groups : List UInt32}

theorem reshaped_refl (groups : List UInt32) (s : BackendSet) : Reshaped groups s s where
  kept := fun {_ _ b} h => ⟨b, h, b.reworked_refl⟩
  added := by
    intro g a c h hn
    simp [hn] at h

theorem Reshaped.trans {s t u : BackendSet} (hst : Reshaped groups s t)
    (htu : Reshaped groups t u) : Reshaped groups s u where
  kept := by
    intro g a b h
    obtain ⟨c, hc, hbc⟩ := hst.kept h
    obtain ⟨d, hd, hcd⟩ := htu.kept hc
    exact ⟨d, hd, hbc.trans hcd⟩
  added := by
    intro g a d hd hn
    cases hc : t.find? g a with
    | none => exact htu.added hd hc
    | some c =>
      obtain ⟨hg, role, status, rfl⟩ := hst.added hc hn
      obtain ⟨d', hd', hcd⟩ := htu.kept hc
      rw [hd] at hd'
      cases hd'
      exact ⟨hg, hcd.exists_new⟩

theorem Reshaped.reworked {s t : BackendSet} (h : Reshaped groups s t) {k : Backend.Key}
    {b c : Backend} (hb : s.get? k = some b) (hc : t.get? k = some c) : b.Reworked c := by
  obtain ⟨d, hd, hbd⟩ := h.kept hb
  have hsame : d = c := Option.some.inj (hd.symm.trans hc)
  exact hsame ▸ hbd

theorem Reshaped.get?_ne_none {s t : BackendSet} (h : Reshaped groups s t) {k : Backend.Key}
    (hk : s.get? k ≠ none) : t.get? k ≠ none := by
  obtain ⟨b, hb⟩ := Option.ne_none_iff_exists'.1 hk
  obtain ⟨c, hc, -⟩ := h.kept hb
  intro hn
  cases hc.symm.trans hn

/-- Rows that lie in the hostgroups still do. -/
theorem Reshaped.hostgroup_mem {s t : BackendSet} (h : Reshaped groups s t)
    (hs : ∀ b ∈ s.rows, b.hostgroup ∈ groups) {k : Backend.Key} (hk : t.get? k ≠ none) :
    k.hostgroup ∈ groups := by
  obtain ⟨c, hc⟩ := Option.ne_none_iff_exists'.1 hk
  cases hb : s.get? k with
  | none => exact (h.added hc hb).1
  | some b =>
    have hmem := hs b (Table.mem_of_get? hb)
    rwa [← Table.key_of_get? hb]

theorem reshaped_of_find?_map {s t : BackendSet} (f : UInt32 → Addr → Backend → Backend)
    (hf : ∀ g a (b : Backend), b.Reworked (f g a b))
    (h : ∀ g a, t.find? g a = (s.find? g a).map (f g a)) :
    Reshaped groups s t where
  kept := by
    intro g a b hb
    exact ⟨f g a b, by rw [h, hb]; rfl, hf g a b⟩
  added := by
    intro g a c hc hn
    rw [h, hn] at hc
    cases hc

theorem reshaped_mapRows (s : BackendSet) (f : Backend → Backend)
    (hf : ∀ b, (f b).key = b.key) (hr : ∀ b : Backend, b.Reworked (f b)) :
    Reshaped groups s (s.mapRows f hf) :=
  reshaped_of_find?_map (fun _ _ => f) (fun _ _ => hr) (find?_mapRows s f hf)

theorem reshaped_change (s : BackendSet) (g : UInt32) (a : Addr) (f : Backend → Backend)
    (hf : ∀ b, (f b).key = b.key) (hr : ∀ b : Backend, b.Reworked (f b)) :
    Reshaped groups s (s.change ⟨g, a⟩ f hf) := by
  apply reshaped_of_find?_map (fun g' a' b => if g = g' ∧ a = a' then f b else b)
  · intro g' a' b
    split
    · exact hr b
    · exact b.reworked_refl
  · intro g' a'
    rw [find?_change]
    split <;> simp

theorem reshaped_setStatus (s : BackendSet) (g : UInt32) (a : Addr) (status : Status) :
    Reshaped groups s (s.setStatus ⟨g, a⟩ status) :=
  reshaped_change s g a _ _ fun b => b.reworked_withStatus status

theorem reshaped_insert_new (s : BackendSet) {g : UInt32} (hg : g ∈ groups) (a : Addr)
    (role : Role) (hn : s.find? g a = none) :
    Reshaped groups s (s.insert (Backend.new g a role)) where
  kept := by
    intro g' a' b hb
    refine ⟨b, ?_, b.reworked_refl⟩
    rw [find?_insert, if_neg, hb]
    rintro ⟨rfl, rfl⟩
    simp [Backend.new, hn] at hb
  added := by
    intro g' a' c hc hn'
    rw [find?_insert] at hc
    split at hc
    · rename_i h
      obtain ⟨rfl, rfl⟩ := h
      cases hc
      exact ⟨hg, role, .online, rfl⟩
    · simp [hn'] at hc

theorem reshaped_foldl (step : BackendSet → Addr → BackendSet)
    (h : ∀ s a, Reshaped groups s (step s a)) (addrs : List Addr) (s : BackendSet) :
    Reshaped groups s (addrs.foldl step s) := by
  induction addrs generalizing s with
  | nil => exact reshaped_refl groups s
  | cons a rest ih => exact (h s a).trans (ih (step s a))

theorem Reshaped.isPinned_eq {s t : BackendSet} (h : Reshaped groups s t) (a : Addr) :
    t.isPinned a = s.isPinned a := by
  rw [Bool.eq_iff_iff, isPinned_eq_true_iff, isPinned_eq_true_iff]
  constructor
  · rintro ⟨g, c, hc, hp⟩
    cases hb : s.find? g a with
    | none =>
      obtain ⟨-, role, status, rfl⟩ := h.added hc hb
      simp [Backend.isPinned_new] at hp
    | some b =>
      obtain ⟨c', hc', hbc⟩ := h.kept hb
      rw [hc] at hc'
      cases hc'
      exact ⟨g, b, hb, hbc.isPinned_eq ▸ hp⟩
  · rintro ⟨g, b, hb, hp⟩
    obtain ⟨c, hc, hbc⟩ := h.kept hb
    exact ⟨g, c, hc, by rw [hbc.isPinned_eq, hp]⟩

end BackendSet

end SingleWriter
