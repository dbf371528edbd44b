import SingleWriter.Proofs.Places
import SingleWriter.Proofs.WriterReads

/-!
# Steady sets

A set is steady around a writer when no stage of a plan has anything left to do: the other
writer rows are at rest, the choice would fall on the same node again, every other reader
row is where the health of its node and the donor rule put it, and the writer reads exactly
where it has to. A steady set is planned to itself. Every plan is steady, also without
the reader row of the writer when that was new and is removed at once.
-/

set_option autoImplicit false

namespace SingleWriter.PlanContext

variable (ctx : PlanContext) {s t current : BackendSet} {w : Option Addr} {g : UInt32} {a : Addr}
  {b : Backend}

/-! ## Rows made twice -/

theorem rest_rest (b : Backend) : ctx.rest (ctx.rest b) = ctx.rest b := by
  have hremoved : ctx.restingStatus (b.withStatus .offlineHard) = .offlineHard := if_pos (by
    simp [Backend.isRemoved, Backend.withStatus])
  have hstatus : ctx.restingStatus (b.withStatus (ctx.restingStatus b)) = ctx.restingStatus b := by
    by_cases hdrains : b.isPinned = false ∧ b.isRemoved = false ∧ ctx.health.health b.addr = .unfit
    · obtain ⟨hp, hr, hunfit⟩ := hdrains
      have hsoft : ∀ c : Backend, c.isPinned = false → c.isRemoved = false →
          ctx.health.health c.addr = .unfit → ctx.restingStatus c = .offlineSoft := by
        intro c hpc hrc hhc
        simp [restingStatus, hpc, hrc, hhc]
      rw [hsoft b hp hr hunfit]
      exact hsoft _ hp rfl hunfit
    · have hhard : ctx.restingStatus b = .offlineHard := by
        unfold restingStatus
        split
        · rfl
        · rename_i hgone
          simp only [Bool.or_eq_true, not_or, Bool.not_eq_true] at hgone
          exact if_neg fun hunfit => hdrains ⟨hgone.1, hgone.2, hunfit⟩
      rw [hhard]
      exact hremoved
  rw [rest, rest, hstatus, Backend.withStatus_withStatus]

theorem servingReader_servingReader (a : Addr) (row : Option Backend) :
    ctx.servingReader a (some (ctx.servingReader a row)) = ctx.servingReader a row := by
  cases row with
  | none => rfl
  | some b =>
    by_cases hp : b.isPinned = true
    · have hrow : ctx.servingReader a (some b) = b.withStatus .offlineHard := if_pos hp
      rw [hrow]
      exact if_pos hp
    · have hrow : ctx.servingReader a (some b) = (b.withStatus .online).withRole .reader :=
        if_neg hp
      rw [hrow]
      exact if_neg hp

theorem activated_installed (a : Addr) (row : Option Backend) :
    activated (ctx.installed a row) = ctx.installed a row := by
  cases row <;> rfl

theorem readerTarget_new (promoted : Prop) [Decidable promoted]
    (hh : ctx.health.health a = .routable) :
    ctx.readerTarget promoted (Backend.new ctx.readerGroup a .reader) =
      Backend.new ctx.readerGroup a .reader :=
  ctx.readerTarget_of_routable promoted rfl hh

theorem readerTarget_readerTarget (promoted : Prop) [Decidable promoted] (b : Backend) :
    ctx.readerTarget promoted (ctx.readerTarget promoted b) = ctx.readerTarget promoted b := by
  by_cases hp : b.isPinned = true
  · rw [ctx.readerTarget_of_pinned promoted hp]
    exact ctx.readerTarget_of_pinned promoted hp
  · have hp' : b.isPinned = false := by simpa using hp
    cases hh : ctx.health.health b.addr with
    | routable =>
      rw [ctx.readerTarget_of_routable promoted hp' hh]
      exact ctx.readerTarget_of_routable promoted hp' hh
    | unfit =>
      by_cases hr : b.isRemoved = true
      · rw [ctx.readerTarget_of_unfit_of_removed promoted hp' hh hr,
          ctx.readerTarget_of_unfit_of_removed promoted hp' hh hr]
      · rw [ctx.readerTarget_of_unfit promoted hp' hh (by simpa using hr)]
        split
        · rename_i hpromoted
          exact (ctx.readerTarget_of_unfit promoted (b := (b.withStatus .online).withRole .reader)
            hp' hh rfl).trans (if_pos hpromoted)
        · rename_i hpromoted
          exact (ctx.readerTarget_of_unfit promoted (b := b.withStatus .offlineSoft)
            hp' hh rfl).trans (if_neg hpromoted)
    | unreachable =>
      rw [ctx.readerTarget_of_gone promoted (.inl hh)]
      exact ctx.readerTarget_of_gone promoted (.inl hh)
    | absent =>
      rw [ctx.readerTarget_of_gone promoted (.inr hh)]
      exact ctx.readerTarget_of_gone promoted (.inr hh)

/-- Whether a row is removed does not depend on the promotion. -/
theorem isRemoved_readerTarget (promoted : Prop) [Decidable promoted] (b : Backend) :
    (ctx.readerTarget promoted b).isRemoved = (ctx.followHealth b).isRemoved := by
  unfold readerTarget
  split
  · exact isRemoved_promotedRow _
  · rfl

theorem readsElsewhere_eq (h : ∀ o, o ≠ a → t.find? ctx.readerGroup o = s.find? ctx.readerGroup o) :
    ctx.readsElsewhere t a = ctx.readsElsewhere s a := by
  apply ctx.readsElsewhere_congr (fun _ b => b) fun _ b => b.reworked_refl
  intro o ho
  rw [h o ho, Option.map_id']

/-! ## Steadiness -/

structure Steady (s : BackendSet) (w : Option Addr) : Prop where
  resting : ∀ {a b}, w ≠ some a → s.find? ctx.writerGroup a = some b → ctx.rest b = b
  online : ∀ {a}, w = some a → ∃ b, s.find? ctx.writerGroup a = some b ∧ b.isOnline = true ∧
    b.isPinned = false ∧ (ctx.holdsBack a = true → activated b = b)
  routable : ∀ {a}, w = some a → ctx.health.health a = .routable
  /-- Only a writer that need not stand back is kept without a choice. -/
  chosen : (∀ a, w = some a → ctx.holdsBack a = true) → ctx.choose? s = w
  following : ∀ {a b}, w ≠ some a → s.find? ctx.readerGroup a = some b →
    ctx.readerTarget (ctx.donorFor s w = some a) b = b
  complete : ∀ {a}, a ∈ ctx.health.candidates → ctx.lacksReader s a = false
  covered : ∀ {a}, w = some a → ctx.readsElsewhere s a = false →
    ∃ b, s.find? ctx.readerGroup a = some b ∧ ctx.servingReader a (some b) = b
  spare : ∀ {a}, w = some a → s.LiveAt ctx.readerGroup a → ctx.readsElsewhere s a = true →
    (s.liveIn ctx.readerGroup).length ≤ 2

namespace Steady

variable {ctx} (h : ctx.Steady s w)

include h

/-! ## Election from a steady set -/

theorem isOnline_eq_false (hw : w ≠ some a) (hb : s.find? ctx.writerGroup a = some b) :
    b.isOnline = false := by
  rw [← h.resting hw hb, rest, Backend.isOnline_withStatus, decide_eq_false_iff_not]
  exact ctx.restingStatus_ne_online b

theorem recovering_eq_nil : ctx.recovering s = [] := by
  apply List.eq_nil_iff_forall_not_mem.2
  intro a ha
  obtain ⟨b, hb, hr⟩ := ctx.mem_recovering.1 ha
  obtain ⟨-, hkept, hoff, hroutable⟩ := ctx.isRecovering_iff.1 hr
  by_cases hw : w = some a
  · obtain ⟨c, hc, ho, -⟩ := h.online hw
    rw [hb] at hc
    cases hc
    rw [hoff] at ho
    cases ho
  · have hrest : b.status = .offlineHard := by
      rw [← h.resting hw hb]
      exact ctx.restingStatus_of_routable hroutable
    rw [← Backend.isRemoved_iff, hkept] at hrest
    cases hrest

theorem find?_recovered (hne : ctx.writerGroup ≠ ctx.readerGroup) (a : Addr) :
    (ctx.recovered s).find? ctx.writerGroup a =
      (s.find? ctx.writerGroup a).map fun b => if ctx.staysOnline b then b else ctx.rest b := by
  have hback : ctx.returner? s ≠ some a := by
    intro hr
    have hmem := ctx.mem_of_returning? hr
    rw [h.recovering_eq_nil] at hmem
    cases hmem
  rw [ctx.find?_recovered_writer hne]
  simp only [if_neg hback]

/-- Only the writer can be online once the nodes have recovered, and it need not stand back. -/
theorem of_online_recovered (hne : ctx.writerGroup ≠ ctx.readerGroup)
    (hb : (ctx.recovered s).find? ctx.writerGroup a = some b) (ho : b.isOnline = true) :
    w = some a ∧ ctx.holdsBack a = false ∧ s.find? ctx.writerGroup a = some b := by
  rw [h.find?_recovered hne] at hb
  obtain ⟨c, hc, hcb⟩ := Option.map_eq_some_iff.1 hb
  by_cases hs : ctx.staysOnline c = true
  · rw [if_pos hs] at hcb
    subst hcb
    have haddr := (BackendSet.find?_eq_some_iff.1 hc).2.2
    obtain ⟨-, -, -, hback⟩ := ctx.staysOnline_iff.1 hs
    refine ⟨?_, by rw [← haddr, hback], hc⟩
    by_contra hw
    rw [h.isOnline_eq_false hw hc] at ho
    cases ho
  · rw [if_neg hs] at hcb
    rw [← hcb, rest, Backend.isOnline_withStatus, decide_eq_true_eq] at ho
    exact absurd ho (ctx.restingStatus_ne_online c)

/-- A writer that need not stand back is still online. -/
theorem find?_recovered_of_writer (hne : ctx.writerGroup ≠ ctx.readerGroup) (hw : w = some a)
    (hback : ctx.holdsBack a = false) (hb : s.find? ctx.writerGroup a = some b)
    (ho : b.isOnline = true) (hp : b.isPinned = false) :
    (ctx.recovered s).find? ctx.writerGroup a = some b := by
  have hstays : ctx.staysOnline b = true := by
    rw [staysOnline_iff, (BackendSet.find?_eq_some_iff.1 hb).2.2]
    exact ⟨hp, ho, h.routable hw, hback⟩
  rw [h.find?_recovered hne, hb, Option.map_some, if_pos hstays]

theorem writer_elect (hne : ctx.writerGroup ≠ ctx.readerGroup) : (ctx.elect s).2 = w := by
  rw [elect_eq]
  -- A writer that has to stand back is settled offline, so that a choice is made.
  by_cases hback : ∀ a, w = some a → ctx.holdsBack a = true
  · have hnil : (ctx.recovered s).onlineIn ctx.writerGroup = [] := by
      apply List.isEmpty_iff.1
      rw [BackendSet.isEmpty_onlineIn_iff]
      intro a b hb
      by_contra ho
      obtain ⟨hw, hfree, -⟩ := h.of_online_recovered hne hb (by simpa using ho)
      rw [hback a hw] at hfree
      cases hfree
    have hchoice : ctx.choose? (ctx.recovered s) = w := by
      rw [ctx.choose?_congr (ctx.reshaped_recovered s).isPinned_eq, h.chosen hback]
    rcases ctx.electFrom_cases (ctx.recovered s) with ⟨kept, extra, ho, -⟩ | ⟨-, x, hx, he⟩ |
      ⟨-, hx, he⟩
    · rw [hnil] at ho
      cases ho
    · rw [he, ← hchoice, hx]
    · rw [he, ← hchoice, hx]
  · obtain ⟨a, hw, hfree⟩ : ∃ a, w = some a ∧ ctx.holdsBack a = false := by simpa using hback
    obtain ⟨b, hb, ho, hp, -⟩ := h.online hw
    have hrow := h.find?_recovered_of_writer hne hw hfree hb ho hp
    obtain ⟨k, c, hk, hc, hoc⟩ := ctx.exists_electFrom_of_online hrow ho
    rw [hk, (h.of_online_recovered hne hc hoc).1]

theorem find?_elect (hne : ctx.writerGroup ≠ ctx.readerGroup) (g : UInt32) (a : Addr) :
    (ctx.elect s).1.find? g a = s.find? g a := by
  have hwriter := h.writer_elect hne
  by_cases hg : g = ctx.writerGroup
  · subst hg
    by_cases hw : w = some a
    · obtain ⟨b, hb, ho, hp, hact⟩ := h.online hw
      rw [elect_eq] at hwriter ⊢
      rw [hb]
      rcases ctx.find?_electFrom_self (hwriter.trans hw) with ⟨c, hc, hoc, hrow⟩ | ⟨hnil, -, hrow⟩
      · rw [hrow, ← (h.of_online_recovered hne hc hoc).2.2, hb]
      · have hback : ctx.holdsBack a = true := by
          by_contra hfree
          have hkept := h.find?_recovered_of_writer hne hw (by simpa using hfree) hb ho hp
          rw [isOnline_eq_false_of_onlineIn hnil hkept] at ho
          cases ho
        -- It was taken out before it was chosen, which only its role and status show.
        rw [hrow, h.find?_recovered hne, hb, ← hact hback]
        simp only [Option.map_some, installed]
        split <;> rfl
    · rw [ctx.find?_elect_of_ne hne (by rwa [hwriter])]
      cases hb : s.find? ctx.writerGroup a with
      | none => rfl
      | some b => rw [Option.map_some, h.resting hw hb]
  · by_cases hr : g = ctx.readerGroup
    · subst hr
      rw [ctx.find?_elect_reader hne, h.recovering_eq_nil]
      simp
    · exact ctx.find?_elect_other hne hg hr

theorem elect_eq (hne : ctx.writerGroup ≠ ctx.readerGroup) : ctx.elect s = (s, w) :=
  Prod.ext
    (Table.eq_of_prefix_keys (ctx.prefix_keys_elect s) fun k =>
      h.find?_elect hne k.hostgroup k.addr)
    (h.writer_elect hne)

/-! ## Reader stages from a steady set -/

theorem find?_served_beside (hne : ctx.writerGroup ≠ ctx.readerGroup) (hw : w ≠ some a) :
    (ctx.served s w).find? ctx.readerGroup a =
      (s.find? ctx.readerGroup a).map
        (ctx.readerTarget (ctx.donorFor (ctx.served s w) w = some a)) := by
  have hconverged := ctx.find?_convergeReaders_of_ne (s := s) hw
  have hlacks : ctx.lacksReader (ctx.convergeReaders s w) a = ctx.lacksReader s a := by
    have hlive : ctx.isLiveWriter (ctx.convergeReaders s w) a = ctx.isLiveWriter s a := by
      rw [isLiveWriter, ctx.find?_convergeReaders_outside w hne, isLiveWriter]
    rw [lacksReader, hconverged, hlive, (ctx.reshaped_convergeReaders s w).isPinned_eq,
      Option.isSome_map, lacksReader]
  rw [ctx.find?_served_of_ne hw, PlanContext.filled, ctx.find?_fillReaders hne, if_neg, hconverged,
    Option.map_map]
  · rfl
  · rintro ⟨-, hcandidate, hmissing⟩
    rw [hlacks, h.complete hcandidate] at hmissing
    cases hmissing

theorem find?_filled_writer (hne : ctx.writerGroup ≠ ctx.readerGroup) (hw : w = some a) :
    (ctx.filled s w).find? ctx.readerGroup a = s.find? ctx.readerGroup a := by
  obtain ⟨b, hb, ho, -⟩ := h.online hw
  subst hw
  rw [ctx.find?_filled_self hne (ctx.isLiveWriter_of_online hb ho), find?_convergeReaders_self]
  cases helse : ctx.readsElsewhere s a with
  | true => rfl
  | false =>
    obtain ⟨c, hc, hserving⟩ := h.covered rfl helse
    rw [hc, hserving]
    rfl

theorem hasLive_served (hne : ctx.writerGroup ≠ ctx.readerGroup) (a : Addr) :
    (ctx.served s w).HasLive a ↔ s.HasLive a := by
  have hsame : w ≠ some a → ∀ g, (ctx.served s w).LiveAt g a ↔ s.LiveAt g a := by
    intro hw g
    by_cases hg : g = ctx.readerGroup
    · subst hg
      -- The promotion is decided on the served set, but it changes nothing that is live.
      apply BackendSet.liveAt_congr (h.find?_served_beside hne hw)
      intro b hb
      have hfollow := congrArg Backend.isRemoved (h.following hw hb)
      rw [isRemoved_readerTarget] at hfollow ⊢
      exact hfollow
    · rw [BackendSet.LiveAt, ctx.find?_served_outside hne w hg, BackendSet.LiveAt]
  by_cases hw : w = some a
  · obtain ⟨b, hb, ho, -⟩ := h.online hw
    have hlive := Backend.isRemoved_of_isOnline ho
    refine ⟨fun _ => ⟨ctx.writerGroup, b, hb, hlive⟩, fun _ => ⟨ctx.writerGroup, b, ?_, hlive⟩⟩
    rw [ctx.find?_served_outside hne w hne, hb]
  · exact exists_congr (hsame hw)

/-- The other reader rows follow as before. -/
theorem find?_served_of_ne (hne : ctx.writerGroup ≠ ctx.readerGroup) (hw : w ≠ some a) :
    (ctx.served s w).find? ctx.readerGroup a = s.find? ctx.readerGroup a := by
  rw [h.find?_served_beside hne hw, ctx.donorFor_congr (h.hasLive_served hne)]
  cases hb : s.find? ctx.readerGroup a with
  | none => rfl
  | some b => rw [Option.map_some, h.following hw hb]

/-- The writer is not retired as a reader. -/
theorem not_retires (hne : ctx.writerGroup ≠ ctx.readerGroup) (hd : ctx.health.Distinct)
    (hw : w = some a) : ¬ ctx.Retires (ctx.filled s w) a := by
  have hself := h.find?_filled_writer hne hw
  have hother : ∀ o, o ≠ a → w ≠ some o := by
    intro o ho hwo
    exact ho (Option.some.inj (hwo.symm.trans hw))
  subst hw
  rw [ctx.retires_filled_iff hne hd]
  rintro ⟨hlive, hlen, helse⟩
  rw [BackendSet.LiveAt, hself] at hlive
  rw [← ctx.readsElsewhere_served, ctx.readsElsewhere_eq fun o ho =>
    h.find?_served_of_ne hne (hother o ho)] at helse
  have hle : ((ctx.filled s (some a)).liveIn ctx.readerGroup).length ≤
      (s.liveIn ctx.readerGroup).length := by
    apply BackendSet.length_liveIn_le
    intro x hx
    by_cases hxa : x = a
    · subst hxa
      exact hlive
    · rw [← ctx.liveAt_served_iff_of_ne (hother x hxa)] at hx
      rwa [BackendSet.LiveAt, h.find?_served_of_ne hne (hother x hxa)] at hx
  exact absurd (Nat.lt_of_lt_of_le hlen (Nat.le_trans hle (h.spare rfl hlive helse))) (by decide)

theorem find?_served (hne : ctx.writerGroup ≠ ctx.readerGroup) (hd : ctx.health.Distinct)
    (g : UInt32) (a : Addr) : (ctx.served s w).find? g a = s.find? g a := by
  by_cases hg : g = ctx.readerGroup
  · subst hg
    by_cases hw : w = some a
    · have hkept := h.not_retires hne hd hw
      have hself := h.find?_filled_writer hne hw
      subst hw
      rw [ctx.find?_served_self, if_neg hkept, hself]
    · exact h.find?_served_of_ne hne hw
  · exact ctx.find?_served_outside hne w hg

/-- A steady set is planned to itself. -/
theorem plan_eq (hne : ctx.writerGroup ≠ ctx.readerGroup) (hd : ctx.health.Distinct) :
    ctx.plan s = ⟨s, w⟩ := by
  have hwriter : (ctx.plan s).writer = w := h.writer_elect hne
  have hrows : (ctx.plan s).backends = s := by
    rw [backends_plan, hwriter, h.elect_eq hne]
    exact Table.eq_of_prefix_keys (ctx.prefix_keys_served s w) fun k =>
      h.find?_served hne hd k.hostgroup k.addr
  calc ctx.plan s = ⟨(ctx.plan s).backends, (ctx.plan s).writer⟩ := rfl
    _ = ⟨s, w⟩ := by rw [hrows, hwriter]

end Steady

/-! ## Rows that were never written -/

/-- The second set is the first one, but that the reader row of the writer may be missing
where it is removed and not pinned. -/
def Trims (w : Option Addr) (s t : BackendSet) : Prop :=
  ∀ g a, t.find? g a = s.find? g a ∨ (g = ctx.readerGroup ∧ w = some a ∧ t.find? g a = none ∧
    ∃ b, s.find? g a = some b ∧ b.isRemoved = true ∧ b.isPinned = false)

namespace Trims

variable {ctx} (ht : ctx.Trims w s t)

include ht

theorem find?_writer (hne : ctx.writerGroup ≠ ctx.readerGroup) (a : Addr) :
    t.find? ctx.writerGroup a = s.find? ctx.writerGroup a := by
  rcases ht ctx.writerGroup a with heq | ⟨hg, -⟩
  · exact heq
  · exact absurd hg hne

theorem find?_of_ne (hw : w ≠ some a) : t.find? ctx.readerGroup a = s.find? ctx.readerGroup a := by
  rcases ht ctx.readerGroup a with heq | ⟨-, hself, -⟩
  · exact heq
  · exact absurd hself hw

theorem kept (hb : t.find? g a = some b) : s.find? g a = some b := by
  rcases ht g a with heq | ⟨-, -, hnone, -⟩
  · rw [← heq, hb]
  · rw [hnone] at hb
    cases hb

theorem find?_of_live (hb : s.find? g a = some b) (hrow : b.isRemoved = false ∨ b.isPinned = true) :
    t.find? g a = some b := by
  rcases ht g a with heq | ⟨-, -, -, c, hc, hr, hp⟩
  · rw [heq, hb]
  · rw [hb] at hc
    cases hc
    rcases hrow with hrow | hrow
    · rw [hr] at hrow
      cases hrow
    · rw [hp] at hrow
      cases hrow

theorem isPinned_eq (a : Addr) : t.isPinned a = s.isPinned a := by
  rw [Bool.eq_iff_iff, BackendSet.isPinned_eq_true_iff, BackendSet.isPinned_eq_true_iff]
  constructor
  · rintro ⟨g, b, hb, hp⟩
    exact ⟨g, b, ht.kept hb, hp⟩
  · rintro ⟨g, b, hb, hp⟩
    exact ⟨g, b, ht.find?_of_live hb (.inr hp), hp⟩

theorem hasLive_iff (a : Addr) : t.HasLive a ↔ s.HasLive a := by
  constructor
  · rintro ⟨g, b, hb, hr⟩
    exact ⟨g, b, ht.kept hb, hr⟩
  · rintro ⟨g, b, hb, hr⟩
    exact ⟨g, b, ht.find?_of_live hb (.inl hr), hr⟩

theorem readsElsewhere_eq (hw : w = some a) : ctx.readsElsewhere t a = ctx.readsElsewhere s a := by
  apply ctx.readsElsewhere_eq
  intro o ho
  exact ht.find?_of_ne fun hwo => ho (Option.some.inj (hwo.symm.trans hw))

/-- A steady set stays so without that row. -/
theorem steady (hne : ctx.writerGroup ≠ ctx.readerGroup) (h : ctx.Steady s w) :
    ctx.Steady t w where
  resting hw hb := h.resting hw (ht.kept hb)
  online := by
    intro a hw
    rw [ht.find?_writer hne]
    exact h.online hw
  routable := h.routable
  chosen := by
    intro hback
    rw [ctx.choose?_congr ht.isPinned_eq, h.chosen hback]
  following := by
    intro a b hw hb
    rw [ctx.donorFor_congr ht.hasLive_iff]
    exact h.following hw (ht.kept hb)
  complete := by
    intro a ha
    by_cases hw : w = some a
    · obtain ⟨b, hb, ho, -⟩ := h.online hw
      rw [← ht.find?_writer hne] at hb
      simp [lacksReader, ctx.isLiveWriter_of_online hb ho]
    · rw [lacksReader, ht.find?_of_ne hw, isLiveWriter, ht.find?_writer hne, ht.isPinned_eq]
      exact h.complete ha
  covered := by
    intro a hw hnone
    rw [ht.readsElsewhere_eq hw] at hnone
    obtain ⟨b, hb, hserving⟩ := h.covered hw hnone
    refine ⟨b, ht.find?_of_live hb ?_, hserving⟩
    by_cases hp : b.isPinned = true
    · exact .inr hp
    · left
      rw [← hserving, servingReader, if_neg hp]
      rfl
  spare := by
    rintro a hw ⟨b, hb, hr⟩ hreads
    rw [ht.readsElsewhere_eq hw] at hreads
    refine Nat.le_trans (BackendSet.length_liveIn_le ?_) (h.spare hw ⟨b, ht.kept hb, hr⟩ hreads)
    rintro x ⟨c, hc, hrc⟩
    exact ⟨c, ht.kept hc, hrc⟩

end Trims

/-! ## Plans are steady -/

/-- A writer that has to stand back has its row as election leaves it. -/
theorem activated_of_holdsBack (hne : ctx.writerGroup ≠ ctx.readerGroup)
    (hw : (ctx.plan current).writer = some a) (hback : ctx.holdsBack a = true)
    (hb : (ctx.plan current).backends.find? ctx.writerGroup a = some b) : activated b = b := by
  rw [ctx.find?_plan_writer hne] at hb
  rcases ctx.elect_cases hne hw with ⟨c, hc, hs, hrow⟩ | ⟨c, -, -, hrow⟩ | ⟨-, -, hrow⟩
  · obtain ⟨-, -, -, hfree⟩ := ctx.staysOnline_iff.1 hs
    rw [(BackendSet.find?_eq_some_iff.1 hc).2.2, hback] at hfree
    cases hfree
  · rw [hb] at hrow
    cases hrow
    rfl
  · rw [hb] at hrow
    cases hrow
    exact ctx.activated_installed a _

theorem lacksReader_plan (hne : ctx.writerGroup ≠ ctx.readerGroup)
    (ha : a ∈ ctx.health.candidates) : ctx.lacksReader (ctx.plan current).backends a = false := by
  by_cases hw : (ctx.plan current).writer = some a
  · obtain ⟨b, hb, ho, -⟩ := ctx.find?_plan_self hne hw
    simp [lacksReader, ctx.isLiveWriter_of_online hb ho]
  · -- The later stages take no reader row away, and no stage touches writer rows or pins.
    have hserved := ctx.find?_served_of_ne (s := (ctx.elect current).1) hw
    have hfilled := ctx.find?_fillReaders hne
      (ctx.convergeReaders (ctx.elect current).1 (ctx.plan current).writer) ctx.readerGroup a
    have hlive : ctx.isLiveWriter (ctx.plan current).backends a = ctx.isLiveWriter
        (ctx.convergeReaders (ctx.elect current).1 (ctx.plan current).writer) a := by
      rw [isLiveWriter, ctx.find?_plan_writer hne, isLiveWriter,
        ctx.find?_convergeReaders_outside _ hne]
    have hpins : (ctx.plan current).backends.isPinned a =
        (ctx.convergeReaders (ctx.elect current).1 (ctx.plan current).writer).isPinned a := by
      rw [backends_plan, (ctx.reshaped_served _ _).isPinned_eq,
        (ctx.reshaped_convergeReaders _ _).isPinned_eq]
    rw [← backends_plan] at hserved
    by_contra hlacks
    simp only [lacksReader, hserved, filled, hfilled, Option.isSome_map, hlive, hpins,
      Bool.not_eq_false, Bool.not_eq_true', Bool.or_eq_false_iff, Option.isSome_eq_false_iff,
      Option.isNone_iff_eq_none] at hlacks
    obtain ⟨⟨hnone, hwriter⟩, hpin⟩ := hlacks
    split at hnone
    · cases hnone
    · rename_i hfull
      apply hfull
      simp [ha, hnone, hwriter, hpin]

theorem covered_plan (hne : ctx.writerGroup ≠ ctx.readerGroup) (hd : ctx.health.Distinct)
    (hw : (ctx.plan current).writer = some a)
    (helse : ctx.readsElsewhere (ctx.plan current).backends a = false) :
    ∃ b, (ctx.plan current).backends.find? ctx.readerGroup a = some b ∧
      ctx.servingReader a (some b) = b := by
  obtain ⟨row, hrow, ho, -⟩ := ctx.find?_elect_self hne hw
  rw [backends_plan, hw, readsElsewhere_served] at helse
  have helected : ctx.readsElsewhere (ctx.elect current).1 a = false := by
    by_contra hreads
    rw [ctx.readsElsewhere_of_reshaped (ctx.reshaped_filled _ _) (by simpa using hreads)] at helse
    cases helse
  have hkept : ¬ ctx.Retires (ctx.filled (ctx.elect current).1 (some a)) a := by
    rw [ctx.retires_filled_iff hne hd, helse]
    simp
  refine ⟨ctx.servingReader a ((ctx.elect current).1.find? ctx.readerGroup a), ?_,
    ctx.servingReader_servingReader a _⟩
  rw [backends_plan, hw, find?_served_self, if_neg hkept,
    ctx.find?_filled_self hne (ctx.isLiveWriter_of_online hrow ho), find?_convergeReaders_self,
    helected]
  rfl

theorem spare_plan (hne : ctx.writerGroup ≠ ctx.readerGroup) (hd : ctx.health.Distinct)
    (hw : (ctx.plan current).writer = some a)
    (hlive : (ctx.plan current).backends.LiveAt ctx.readerGroup a)
    (helse : ctx.readsElsewhere (ctx.plan current).backends a = true) :
    ((ctx.plan current).backends.liveIn ctx.readerGroup).length ≤ 2 := by
  rw [backends_plan, hw, readsElsewhere_served] at helse
  rw [backends_plan, hw] at hlive ⊢
  have hself := ctx.find?_served_self (ctx.elect current).1 a
  have hkept : ¬ ctx.Retires (ctx.filled (ctx.elect current).1 (some a)) a := by
    intro hretires
    obtain ⟨b, hb, hr⟩ := hlive
    rw [hself, if_pos hretires] at hb
    obtain ⟨c, -, rfl⟩ := Option.map_eq_some_iff.1 hb
    cases hr
  rw [if_neg hkept] at hself
  have hfilled : (ctx.filled (ctx.elect current).1 (some a)).LiveAt ctx.readerGroup a := by
    rwa [BackendSet.LiveAt, ← hself]
  rw [ctx.retires_filled_iff hne hd, helse] at hkept
  have hlen : ((ctx.filled (ctx.elect current).1 (some a)).liveIn ctx.readerGroup).length ≤ 2 := by
    by_contra hmany
    exact hkept ⟨hfilled, Nat.lt_of_not_le hmany, rfl⟩
  refine Nat.le_trans (BackendSet.length_liveIn_le fun x hx => ?_) hlen
  by_cases hxa : x = a
  · subst hxa
    exact hfilled
  · rwa [ctx.liveAt_served_iff_of_ne fun hax => hxa (Option.some.inj hax).symm] at hx

/-- A plan leaves nothing to do for the next one. -/
theorem steady_plan (hne : ctx.writerGroup ≠ ctx.readerGroup) (hd : ctx.health.Distinct)
    (current : BackendSet) : ctx.Steady (ctx.plan current).backends (ctx.plan current).writer where
  resting := by
    intro a b hw hb
    rw [ctx.find?_plan_of_ne hne hw] at hb
    obtain ⟨c, -, rfl⟩ := Option.map_eq_some_iff.1 hb
    exact ctx.rest_rest c
  online := by
    intro a hw
    obtain ⟨b, hb, ho, hp⟩ := ctx.find?_plan_self hne hw
    exact ⟨b, hb, ho, hp, fun hback => ctx.activated_of_holdsBack hne hw hback hb⟩
  routable := fun hw => ctx.routable_of_elect hne hd hw
  chosen := by
    intro hback
    rw [ctx.choose?_congr (ctx.reshaped_plan current).isPinned_eq]
    exact ctx.choose?_of_elect hne hback
  following := by
    intro a b hw hb
    rcases ctx.plan_reader_cases hne hd hw hb with ⟨old, -, rfl⟩ | ⟨-, hh, rfl⟩
    · exact ctx.readerTarget_readerTarget _ old
    · exact ctx.readerTarget_new _ hh
  complete := ctx.lacksReader_plan hne
  covered := ctx.covered_plan hne hd
  spare := ctx.spare_plan hne hd

/-- A plan that removes a row at once does so with the reader row of the writer. -/
theorem new_removed_plan (hne : ctx.writerGroup ≠ ctx.readerGroup) (hd : ctx.health.Distinct)
    (hnew : current.find? g a = none) (hb : (ctx.plan current).backends.find? g a = some b)
    (hr : b.isRemoved = true) :
    g = ctx.readerGroup ∧ (ctx.plan current).writer = some a ∧ b.isPinned = false := by
  obtain ⟨hg, role, status, hrow⟩ := (ctx.reshaped_plan current).added hb hnew
  have hp : b.isPinned = false := by
    rw [hrow]
    exact Backend.isPinned_new g a role status
  rw [List.mem_pair] at hg
  rcases hg with rfl | rfl
  · by_cases hw : (ctx.plan current).writer = some a
    · obtain ⟨c, hc, ho, -⟩ := ctx.find?_plan_self hne hw
      rw [hb] at hc
      cases hc
      rw [Backend.isRemoved_of_isOnline ho] at hr
      cases hr
    · rw [ctx.find?_plan_of_ne hne hw, hnew] at hb
      cases hb
  · by_cases hw : (ctx.plan current).writer = some a
    · exact ⟨rfl, hw, hp⟩
    · rcases ctx.plan_reader_cases hne hd hw hb with ⟨old, hold, -⟩ | ⟨-, -, rfl⟩
      · rw [hnew] at hold
        cases hold
      · cases hr

end SingleWriter.PlanContext
