import SingleWriter.Proofs.Recovery

/-!
# Election

The writer is the first online node or, where none is online, a candidate that is pinned
nowhere. Its row is online, and every other writer row is at rest. There is no writer
only where every candidate is pinned. Rows outside the writer hostgroup are as recovery
left them.
-/

set_option autoImplicit false

namespace SingleWriter.PlanContext

variable (ctx : PlanContext) {s u : BackendSet} {g : UInt32} {a x : Addr}

/-! ## Keeping one of the online nodes -/

theorem find?_foldl_demote (extra : List Addr) (u : BackendSet) (g : UInt32) (a : Addr) :
    (extra.foldl ctx.demote u).find? g a =
      if g = ctx.writerGroup ∧ a ∈ extra then (u.find? g a).map (Backend.withStatus .offlineHard)
      else u.find? g a := by
  induction extra generalizing u with
  | nil => simp
  | cons y rest ih =>
    rw [List.foldl_cons, ih, find?_demote]
    by_cases hg : ctx.writerGroup = g
    · subst hg
      by_cases hy : y = a
      · subst hy
        by_cases hr : y ∈ rest
        · simp [hr, Function.comp_def, Backend.withStatus_withStatus]
        · simp [hr]
      · simp [hy, Ne.symm hy]
    · simp [hg, Ne.symm hg]

def installed (addr : Addr) : Option Backend → Backend
  | none => Backend.new ctx.writerGroup addr .writer
  | some b => activated b

theorem find?_install (u : BackendSet) (x : Addr) (g : UInt32) (a : Addr) :
    (ctx.install u x).find? g a =
      if ctx.writerGroup = g ∧ x = a then some (ctx.installed a (u.find? g a))
      else u.find? g a := by
  cases h : u.find? ctx.writerGroup x with
  | none =>
    have hset : ctx.install u x = u.insert (Backend.new ctx.writerGroup x .writer) := by
      simp only [install, h]
    have hrow := BackendSet.find?_insert u (Backend.new ctx.writerGroup x .writer) g a
    rw [hset, hrow]
    by_cases hk : ctx.writerGroup = g ∧ x = a
    · obtain ⟨rfl, rfl⟩ := hk
      simp [Backend.new, installed, h]
    · rw [if_neg hk, if_neg (by simpa [Backend.new] using hk)]
  | some b =>
    have hset : ctx.install u x = ctx.activateWriter u x := by simp only [install, h]
    rw [hset, find?_activateWriter]
    by_cases hk : ctx.writerGroup = g ∧ x = a
    · obtain ⟨rfl, rfl⟩ := hk
      simp [h, installed]
    · rw [if_neg hk, if_neg hk]

theorem mem_eligible : a ∈ ctx.eligible s ↔ a ∈ ctx.health.candidates ∧ s.isPinned a = false := by
  simp [eligible]

theorem mem_eligible_of_choose? (h : ctx.choose? s = some a) : a ∈ ctx.eligible s := by
  unfold choose? at h
  cases hf : (ctx.eligible s).find? fun addr => !ctx.blacklist.contains addr with
  | none =>
    rw [hf, Option.none_or] at h
    exact List.mem_of_head? h
  | some y =>
    rw [hf, Option.some_or] at h
    cases h
    exact List.mem_of_find?_eq_some hf

theorem eligible_of_choose?_eq_none (h : ctx.choose? s = none) : ctx.eligible s = [] := by
  unfold choose? at h
  rw [Option.or_eq_none_iff] at h
  exact List.head?_eq_none_iff.1 h.2

theorem choose?_congr (h : ∀ a, u.isPinned a = s.isPinned a) : ctx.choose? u = ctx.choose? s := by
  simp only [choose?, eligible, h]

/-! ## The choice -/

/-- Either some node is online and the first one is kept, or an eligible candidate is
installed, or nothing is eligible. -/
theorem electFrom_cases (u : BackendSet) :
    (∃ kept extra, (u.onlineIn ctx.writerGroup).map Backend.addr = kept :: extra ∧
      ctx.electFrom u = (extra.foldl ctx.demote u, some kept)) ∨
    (u.onlineIn ctx.writerGroup = [] ∧
      ∃ x, ctx.choose? u = some x ∧ ctx.electFrom u = (ctx.install u x, some x)) ∨
    (u.onlineIn ctx.writerGroup = [] ∧ ctx.choose? u = none ∧ ctx.electFrom u = (u, none)) := by
  cases ho : (u.onlineIn ctx.writerGroup).map Backend.addr with
  | cons kept extra =>
    refine .inl ⟨kept, extra, rfl, ?_⟩
    simp only [electFrom, ho]
  | nil =>
    have hnil : u.onlineIn ctx.writerGroup = [] := by simpa using ho
    cases hc : ctx.choose? u with
    | some x =>
      refine .inr (.inl ⟨hnil, x, rfl, ?_⟩)
      simp only [electFrom, ho, hc]
    | none =>
      refine .inr (.inr ⟨hnil, rfl, ?_⟩)
      simp only [electFrom, ho, hc]

theorem isOnline_eq_false_of_onlineIn (h : u.onlineIn g = []) {b : Backend}
    (hb : u.find? g a = some b) : b.isOnline = false :=
  BackendSet.isEmpty_onlineIn_iff.1 (by rw [h]; rfl) a b hb

/-- Whoever is not elected leaves service. -/
theorem find?_electFrom_of_ne (h : (ctx.electFrom u).2 ≠ some a) :
    (ctx.electFrom u).1.find? ctx.writerGroup a =
      (u.find? ctx.writerGroup a).map fun b =>
        if b.isOnline then b.withStatus .offlineHard else b := by
  have hoff : u.onlineIn ctx.writerGroup = [] → u.find? ctx.writerGroup a =
      (u.find? ctx.writerGroup a).map fun b =>
        if b.isOnline then b.withStatus .offlineHard else b := by
    intro hnil
    cases hb : u.find? ctx.writerGroup a with
    | none => rfl
    | some b => simp [isOnline_eq_false_of_onlineIn hnil hb]
  rcases ctx.electFrom_cases u with ⟨kept, extra, ho, he⟩ | ⟨hnil, x, -, he⟩ | ⟨hnil, -, he⟩
  · rw [he] at h ⊢
    have hk : kept ≠ a := fun hk => h (congrArg some hk)
    have hextra : a ∈ extra ↔ a ∈ (u.onlineIn ctx.writerGroup).map Backend.addr := by
      simp [ho, Ne.symm hk]
    rw [BackendSet.mem_addr_onlineIn, BackendSet.OnlineAt] at hextra
    simp only [find?_foldl_demote, hextra, true_and]
    cases hb : u.find? ctx.writerGroup a with
    | none => simp
    | some b => by_cases hob : b.isOnline = true <;> simp [hob]
  · rw [he] at h ⊢
    have hx : x ≠ a := fun hx => h (congrArg some hx)
    simp only [find?_install, true_and, if_neg hx]
    exact hoff hnil
  · rw [he]
    exact hoff hnil

theorem find?_electFrom_self (h : (ctx.electFrom u).2 = some a) :
    (∃ b, u.find? ctx.writerGroup a = some b ∧ b.isOnline = true ∧
      (ctx.electFrom u).1.find? ctx.writerGroup a = some b) ∨
    (u.onlineIn ctx.writerGroup = [] ∧ a ∈ ctx.eligible u ∧
      (ctx.electFrom u).1.find? ctx.writerGroup a =
        some (ctx.installed a (u.find? ctx.writerGroup a))) := by
  rcases ctx.electFrom_cases u with ⟨kept, extra, ho, he⟩ | ⟨hnil, x, hc, he⟩ | ⟨-, -, he⟩
  · rw [he] at h ⊢
    cases h
    have hmem : a ∈ (u.onlineIn ctx.writerGroup).map Backend.addr := by simp [ho]
    obtain ⟨b, hb, hob⟩ := BackendSet.mem_addr_onlineIn.1 hmem
    have hnodup := BackendSet.nodup_addr_onlineIn u ctx.writerGroup
    rw [ho] at hnodup
    refine .inl ⟨b, hb, hob, ?_⟩
    simp only [find?_foldl_demote, (List.nodup_cons.1 hnodup).1, and_false, if_false]
    exact hb
  · rw [he] at h ⊢
    cases h
    refine .inr ⟨hnil, ctx.mem_eligible_of_choose? hc, ?_⟩
    simp only [find?_install, and_self, if_true]
  · rw [he] at h
    cases h

theorem find?_electFrom_outside (h : g ≠ ctx.writerGroup) :
    (ctx.electFrom u).1.find? g a = u.find? g a := by
  rcases ctx.electFrom_cases u with ⟨kept, extra, -, he⟩ | ⟨-, x, -, he⟩ | ⟨-, -, he⟩
  · simp [he, find?_foldl_demote, h]
  · simp [he, find?_install, Ne.symm h]
  · rw [he]

theorem exists_electFrom_of_online {b : Backend} (hb : u.find? ctx.writerGroup a = some b)
    (ho : b.isOnline = true) :
    ∃ k c, (ctx.electFrom u).2 = some k ∧ u.find? ctx.writerGroup k = some c ∧
      c.isOnline = true := by
  have hne : u.onlineIn ctx.writerGroup ≠ [] := by
    intro hnil
    rw [isOnline_eq_false_of_onlineIn hnil hb] at ho
    cases ho
  rcases ctx.electFrom_cases u with ⟨kept, extra, hl, he⟩ | ⟨hnil, -⟩ | ⟨hnil, -⟩
  · have hmem : kept ∈ (u.onlineIn ctx.writerGroup).map Backend.addr := by simp [hl]
    obtain ⟨c, hc, hoc⟩ := BackendSet.mem_addr_onlineIn.1 hmem
    exact ⟨kept, c, by rw [he], hc, hoc⟩
  · exact absurd hnil hne
  · exact absurd hnil hne

/-! ## The elected set -/

theorem elect_eq (s : BackendSet) : ctx.elect s = ctx.electFrom (ctx.recovered s) := rfl

theorem reshaped_install (s : BackendSet) (a : Addr) :
    BackendSet.Reshaped [ctx.writerGroup, ctx.readerGroup] s (ctx.install s a) := by
  cases h : s.find? ctx.writerGroup a with
  | none =>
    simp only [install, h]
    exact BackendSet.reshaped_insert_new s (by simp) a .writer h
  | some b =>
    simp only [install, h]
    exact ctx.reshaped_activateWriter s a

theorem reshaped_elect (s : BackendSet) :
    BackendSet.Reshaped [ctx.writerGroup, ctx.readerGroup] s (ctx.elect s).1 := by
  apply (ctx.reshaped_recovered s).trans
  rw [elect_eq]
  rcases ctx.electFrom_cases (ctx.recovered s) with ⟨_, extra, -, he⟩ | ⟨-, x, -, he⟩ | ⟨-, -, he⟩
  · rw [he]
    exact BackendSet.reshaped_foldl ctx.demote ctx.reshaped_demote extra _
  · rw [he]
    exact ctx.reshaped_install _ x
  · rw [he]
    exact BackendSet.reshaped_refl _ _

/-- A returning node is the only online one, so that it is kept as writer. -/
theorem elect_of_returner (hne : ctx.writerGroup ≠ ctx.readerGroup)
    (h : ctx.returner? s = some a) : (ctx.elect s).2 = some a := by
  obtain ⟨b, hb, -⟩ := ctx.mem_recovering.1 (ctx.mem_of_returning? h)
  have hrow : (ctx.recovered s).find? ctx.writerGroup a = some (activated b) := by
    rw [ctx.find?_recovered_writer hne, hb, Option.map_some, if_pos h]
  obtain ⟨k, c, hk, hc, ho⟩ := ctx.exists_electFrom_of_online hrow rfl
  have hka : k = a := by
    by_contra hka
    have hback : ctx.returner? s ≠ some k := by
      rw [h]
      exact fun he => hka (Option.some.inj he).symm
    rw [ctx.find?_recovered_writer hne, Option.map_eq_some_iff] at hc
    obtain ⟨d, hd, rfl⟩ := hc
    rw [if_neg hback] at ho
    by_cases hs : ctx.staysOnline d = true
    · have hoff : (ctx.settled s).onlineIn ctx.writerGroup = [] := by
        unfold returner? returning? at h
        split at h
        · rename_i he
          exact List.isEmpty_iff.1 he
        · cases h
      have hset : (ctx.settled s).find? ctx.writerGroup k =
          some (d.withStatus (ctx.settledStatus d)) := by
        rw [find?_settled_writer, hd]
        rfl
      have hoff' := isOnline_eq_false_of_onlineIn hoff hset
      rw [ctx.settledStatus_of_staysOnline hs] at hoff'
      cases hoff'
    · rw [if_neg hs, rest, Backend.isOnline_withStatus, decide_eq_true_eq] at ho
      exact ctx.restingStatus_ne_online d ho
  rw [elect_eq, hk, hka]

/-- The writer row of a node that is not the writer is at rest. -/
theorem find?_elect_of_ne (hne : ctx.writerGroup ≠ ctx.readerGroup)
    (h : (ctx.elect s).2 ≠ some a) :
    (ctx.elect s).1.find? ctx.writerGroup a = (s.find? ctx.writerGroup a).map ctx.rest := by
  have hback : ctx.returner? s ≠ some a := fun hr => h (ctx.elect_of_returner hne hr)
  rw [elect_eq] at h ⊢
  rw [ctx.find?_electFrom_of_ne h, ctx.find?_recovered_writer hne, Option.map_map]
  congr 1
  funext b
  simp only [Function.comp_apply, if_neg hback]
  by_cases hs : ctx.staysOnline b = true
  · rw [if_pos hs, if_pos (ctx.isOnline_of_staysOnline hs), rest,
      ctx.restingStatus_of_routable (ctx.routable_of_staysOnline hs)]
  · have ho : (ctx.rest b).isOnline = false := by
      rw [rest, Backend.isOnline_withStatus, decide_eq_false_iff_not]
      exact ctx.restingStatus_ne_online b
    simp [hs, ho]

/-- The writer is a node that stayed online, one that recovered, or a candidate pinned
nowhere. -/
theorem elect_cases (hne : ctx.writerGroup ≠ ctx.readerGroup) (h : (ctx.elect s).2 = some a) :
    (∃ b, s.find? ctx.writerGroup a = some b ∧ ctx.staysOnline b = true ∧
      (ctx.elect s).1.find? ctx.writerGroup a = some b) ∨
    (∃ b, s.find? ctx.writerGroup a = some b ∧ ctx.isRecovering b = true ∧
      (ctx.elect s).1.find? ctx.writerGroup a = some (activated b)) ∨
    (a ∈ ctx.health.candidates ∧ s.isPinned a = false ∧
      (ctx.elect s).1.find? ctx.writerGroup a =
        some (ctx.installed a (s.find? ctx.writerGroup a))) := by
  rw [elect_eq] at h ⊢
  rcases ctx.find?_electFrom_self h with ⟨c, hc, ho, hrow⟩ | ⟨-, hmem, hrow⟩
  · rw [hrow]
    rw [ctx.find?_recovered_writer hne, Option.map_eq_some_iff] at hc
    obtain ⟨b, hb, rfl⟩ := hc
    by_cases hback : ctx.returner? s = some a
    · obtain ⟨d, hd, hr⟩ := ctx.mem_recovering.1 (ctx.mem_of_returning? hback)
      rw [hb] at hd
      cases hd
      exact .inr (.inl ⟨b, hb, hr, by rw [if_pos hback]⟩)
    · rw [if_neg hback] at ho ⊢
      by_cases hs : ctx.staysOnline b = true
      · exact .inl ⟨b, hb, hs, by rw [if_pos hs]⟩
      · rw [if_neg hs, rest, Backend.isOnline_withStatus, decide_eq_true_eq] at ho
        exact absurd ho (ctx.restingStatus_ne_online b)
  · obtain ⟨hcand, hpin⟩ := ctx.mem_eligible.1 hmem
    rw [(ctx.reshaped_recovered s).isPinned_eq] at hpin
    refine .inr (.inr ⟨hcand, hpin, ?_⟩)
    rw [hrow, ctx.find?_recovered_writer hne]
    cases hb : s.find? ctx.writerGroup a with
    | none => rfl
    | some b =>
      simp only [Option.map_some, installed]
      split
      · rfl
      · split <;> rfl

theorem find?_elect_self (hne : ctx.writerGroup ≠ ctx.readerGroup)
    (h : (ctx.elect s).2 = some a) :
    ∃ b, (ctx.elect s).1.find? ctx.writerGroup a = some b ∧ b.isOnline = true ∧
      b.isPinned = false := by
  rcases ctx.elect_cases hne h with ⟨b, hb, hs, hrow⟩ | ⟨b, hb, hr, hrow⟩ | ⟨-, hp, hrow⟩
  · obtain ⟨hp, ho, -⟩ := ctx.staysOnline_iff.1 hs
    exact ⟨b, hrow, ho, hp⟩
  · obtain ⟨hp, -⟩ := ctx.isRecovering_iff.1 hr
    exact ⟨activated b, hrow, rfl, hp⟩
  · refine ⟨_, hrow, ?_⟩
    cases hb : s.find? ctx.writerGroup a with
    | none => exact ⟨rfl, rfl⟩
    | some b =>
      have hpin : b.isPinned = false := BackendSet.isPinned_eq_false_of_find? hp hb
      exact ⟨rfl, hpin⟩

theorem routable_of_elect (hne : ctx.writerGroup ≠ ctx.readerGroup)
    (hd : ctx.health.Distinct) (h : (ctx.elect s).2 = some a) :
    ctx.health.health a = .routable := by
  rcases ctx.elect_cases hne h with ⟨b, hb, hs, -⟩ | ⟨b, hb, hr, -⟩ | ⟨hc, -, -⟩
  · rw [← (BackendSet.find?_eq_some_iff.1 hb).2.2]
    exact ctx.routable_of_staysOnline hs
  · rw [← (BackendSet.find?_eq_some_iff.1 hb).2.2]
    exact ctx.routable_of_isRecovering hr
  · exact (HealthMap.mem_candidates_iff hd).1 hc

/-- There is no writer only where every candidate is pinned. -/
theorem isPinned_of_elect_eq_none (h : (ctx.elect s).2 = none)
    (ha : a ∈ ctx.health.candidates) : s.isPinned a = true := by
  rw [elect_eq] at h
  rcases ctx.electFrom_cases (ctx.recovered s) with ⟨_, _, -, he⟩ | ⟨-, _, -, he⟩ | ⟨-, hc, -⟩
  · rw [he] at h
    cases h
  · rw [he] at h
    cases h
  · rw [← (ctx.reshaped_recovered s).isPinned_eq a]
    by_contra hp
    have hmem : a ∈ ctx.eligible (ctx.recovered s) :=
      ctx.mem_eligible.2 ⟨ha, by simpa using hp⟩
    rw [ctx.eligible_of_choose?_eq_none hc] at hmem
    cases hmem

theorem holdsBack_of_returner? (h : ctx.returner? s = some a) : ctx.holdsBack a = false := by
  unfold returner? returning? at h
  split at h
  · simpa using List.find?_some h
  · cases h

/-- No node that is online before the choice has to stand back. -/
theorem holdsBack_of_online_recovered (hne : ctx.writerGroup ≠ ctx.readerGroup) {c : Backend}
    (hc : (ctx.recovered s).find? ctx.writerGroup a = some c) (ho : c.isOnline = true) :
    ctx.holdsBack a = false := by
  rw [ctx.find?_recovered_writer hne] at hc
  obtain ⟨b, hb, rfl⟩ := Option.map_eq_some_iff.1 hc
  split at ho
  · exact ctx.holdsBack_of_returner? ‹_›
  · split at ho
    · rename_i hs
      obtain ⟨-, -, -, hback⟩ := ctx.staysOnline_iff.1 hs
      rwa [(BackendSet.find?_eq_some_iff.1 hb).2.2] at hback
    · rw [rest, Backend.isOnline_withStatus, decide_eq_true_eq] at ho
      exact absurd ho (ctx.restingStatus_ne_online b)

/-- The writer need not stand back, or no node is online before the choice and it is chosen. -/
theorem writer_elect_cases (hne : ctx.writerGroup ≠ ctx.readerGroup) (s : BackendSet) :
    (∃ k, (ctx.elect s).2 = some k ∧ ctx.holdsBack k = false) ∨
    ((ctx.recovered s).onlineIn ctx.writerGroup = [] ∧ (ctx.elect s).2 = ctx.choose? s) := by
  have hchoice : ctx.choose? (ctx.recovered s) = ctx.choose? s :=
    ctx.choose?_congr (ctx.reshaped_recovered s).isPinned_eq
  rw [elect_eq]
  rcases ctx.electFrom_cases (ctx.recovered s) with ⟨kept, extra, ho, he⟩ | ⟨hnil, x, hx, he⟩ |
    ⟨hnil, hx, he⟩
  · have hmem : kept ∈ ((ctx.recovered s).onlineIn ctx.writerGroup).map Backend.addr := by simp [ho]
    obtain ⟨c, hc, hoc⟩ := BackendSet.mem_addr_onlineIn.1 hmem
    exact .inl ⟨kept, by rw [he], ctx.holdsBack_of_online_recovered hne hc hoc⟩
  · exact .inr ⟨hnil, by rw [he, ← hchoice, hx]⟩
  · exact .inr ⟨hnil, by rw [he, ← hchoice, hx]⟩

/-- A writer that has to stand back was chosen. -/
theorem choose?_of_elect (hne : ctx.writerGroup ≠ ctx.readerGroup)
    (hback : ∀ a, (ctx.elect s).2 = some a → ctx.holdsBack a = true) :
    ctx.choose? s = (ctx.elect s).2 := by
  rcases ctx.writer_elect_cases hne s with ⟨k, hk, hfree⟩ | ⟨-, hchosen⟩
  · rw [hback k hk] at hfree
    cases hfree
  · exact hchosen.symm

theorem find?_elect_reader (hne : ctx.writerGroup ≠ ctx.readerGroup) :
    (ctx.elect s).1.find? ctx.readerGroup a =
      if a ∈ ctx.recovering s ∧ ctx.returner? s ≠ some a then
        some (ctx.servingReader a (s.find? ctx.readerGroup a))
      else s.find? ctx.readerGroup a := by
  rw [elect_eq, ctx.find?_electFrom_outside hne.symm, ctx.find?_recovered_reader hne]

theorem find?_elect_other (hne : ctx.writerGroup ≠ ctx.readerGroup)
    (hw : g ≠ ctx.writerGroup) (hr : g ≠ ctx.readerGroup) :
    (ctx.elect s).1.find? g a = s.find? g a := by
  rw [elect_eq, ctx.find?_electFrom_outside hw, ctx.find?_recovered_other hne hw hr]

end SingleWriter.PlanContext
