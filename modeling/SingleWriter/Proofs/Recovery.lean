import SingleWriter.Proofs.Findings
import SingleWriter.Proofs.Rows
import SingleWriter.Plan

/-!
# Recovery of writer rows

What is in every row before a writer is chosen. A settled writer row stays online, is
at rest, or belongs to a node that recovers. At rest means drained when the node answers
but must not take traffic, and removed otherwise.

The recovering nodes are taken one after the other. Only the first of them that need not
stand back can return, and only where no writer was online: that node is `returner?`,
and with it the whole loop is one function of the row it starts from. The others become
readers.
-/

set_option autoImplicit false

namespace SingleWriter.PlanContext

variable (ctx : PlanContext)

/-! ## One row -/

/-- The status of a writer row whose node is not the writer. -/
def restingStatus (b : Backend) : Status :=
  if b.isPinned || b.isRemoved then .offlineHard
  else if ctx.health.health b.addr = .unfit then .offlineSoft
  else .offlineHard

def rest (b : Backend) : Backend := b.withStatus (ctx.restingStatus b)

def staysOnline (b : Backend) : Bool :=
  !b.isPinned && b.isOnline && ctx.health.health b.addr = .routable && !ctx.holdsBack b.addr

theorem staysOnline_iff {b : Backend} :
    ctx.staysOnline b = true ↔ b.isPinned = false ∧ b.isOnline = true ∧
      ctx.health.health b.addr = .routable ∧ ctx.holdsBack b.addr = false := by
  simp [staysOnline, and_assoc]

theorem isRecovering_iff {b : Backend} :
    ctx.isRecovering b = true ↔ b.isPinned = false ∧ b.isRemoved = false ∧
      b.isOnline = false ∧ ctx.health.health b.addr = .routable := by
  simp [isRecovering, and_assoc]

theorem restingStatus_ne_online (b : Backend) : ctx.restingStatus b ≠ .online := by
  unfold restingStatus
  split
  · decide
  · split <;> decide

theorem settledStatus_of_staysOnline {b : Backend} (h : ctx.staysOnline b = true) :
    ctx.settledStatus b = .online := by
  obtain ⟨hp, ho, hr, hb⟩ := ctx.staysOnline_iff.1 h
  have hs := Backend.isOnline_iff.1 ho
  simp [settledStatus, Backend.isRemoved, hp, hs, hr, hb]

theorem restingStatus_of_routable {b : Backend} (h : ctx.health.health b.addr = .routable) :
    ctx.restingStatus b = .offlineHard := by
  simp [restingStatus, h]

theorem isOnline_of_staysOnline {b : Backend} (h : ctx.staysOnline b = true) :
    b.isOnline = true :=
  (ctx.staysOnline_iff.1 h).2.1

theorem routable_of_staysOnline {b : Backend} (h : ctx.staysOnline b = true) :
    ctx.health.health b.addr = .routable :=
  (ctx.staysOnline_iff.1 h).2.2.1

theorem routable_of_isRecovering {b : Backend} (h : ctx.isRecovering b = true) :
    ctx.health.health b.addr = .routable :=
  (ctx.isRecovering_iff.1 h).2.2.2

/-- A row that neither stays online nor recovers is at rest once it is settled. -/
theorem settledStatus_eq_resting {b : Backend} (hs : ctx.staysOnline b = false)
    (hr : ctx.isRecovering b = false) : ctx.settledStatus b = ctx.restingStatus b := by
  unfold settledStatus restingStatus
  by_cases hgone : (b.isPinned || b.isRemoved) = true
  · simp [hgone]
  · have hp : b.isPinned = false := by simp_all
    have hm : b.isRemoved = false := by simp_all
    rw [if_neg hgone, if_neg hgone]
    cases hh : ctx.health.health b.addr with
    | absent => rfl
    | unreachable => rfl
    | unfit => rfl
    | routable =>
      have ho : b.isOnline = true := by simpa [isRecovering, hp, hm, hh] using hr
      have hb : ctx.holdsBack b.addr = true := by simpa [staysOnline, hp, ho, hh] using hs
      simp [ho, hb]

theorem not_staysOnline_of_isRecovering {b : Backend} (h : ctx.isRecovering b = true) :
    ctx.staysOnline b = false := by
  obtain ⟨-, -, hoff, -⟩ := ctx.isRecovering_iff.1 h
  simp [staysOnline, hoff]

/-- A settled row is online exactly when it stays so. -/
theorem settledStatus_eq_online_iff {b : Backend} :
    ctx.settledStatus b = .online ↔ ctx.staysOnline b = true := by
  constructor
  · intro h
    by_contra hs
    have hs' : ctx.staysOnline b = false := by simpa using hs
    by_cases hr : ctx.isRecovering b = true
    · obtain ⟨hp, hm, ho, hh⟩ := ctx.isRecovering_iff.1 hr
      simp only [settledStatus, hp, hm, hh, ho, Bool.or_self, Bool.false_and] at h
      simp [Backend.isOnline] at ho
      exact ho h
    · have hr' : ctx.isRecovering b = false := by simpa using hr
      rw [ctx.settledStatus_eq_resting hs' hr'] at h
      exact ctx.restingStatus_ne_online b h
  · exact ctx.settledStatus_of_staysOnline

/-! ## Rows under the single steps -/

def servingReader (addr : Addr) : Option Backend → Backend
  | none => Backend.new ctx.readerGroup addr .reader
  | some b => if b.isPinned then b.withStatus .offlineHard else (b.withStatus .online).withRole .reader

def activated (b : Backend) : Backend := (b.withStatus .online).withRole .writer

variable (s : BackendSet) (g : UInt32) (a x : Addr)

theorem find?_ensureReader :
    (ctx.ensureReader s x).find? g a =
      if ctx.readerGroup = g ∧ x = a then some (ctx.servingReader a (s.find? g a))
      else s.find? g a := by
  cases h : s.find? ctx.readerGroup x with
  | none =>
    have hset : ctx.ensureReader s x = s.insert (Backend.new ctx.readerGroup x .reader) := by
      simp only [ensureReader, h]
    have hrow := BackendSet.find?_insert s (Backend.new ctx.readerGroup x .reader) g a
    rw [hset, hrow]
    by_cases hk : ctx.readerGroup = g ∧ x = a
    · obtain ⟨rfl, rfl⟩ := hk
      simp [Backend.new, servingReader, h]
    · rw [if_neg hk, if_neg (by simpa [Backend.new] using hk)]
  | some b =>
    have hrow : (ctx.ensureReader s x).find? g a =
        if ctx.readerGroup = g ∧ x = a then
          (s.find? g a).map fun c =>
            if b.isPinned then c.withStatus .offlineHard else (c.withStatus .online).withRole .reader
        else s.find? g a := by
      simp only [ensureReader, h]
      by_cases hp : b.isPinned = true
      · simp only [if_pos hp]
        exact BackendSet.find?_setStatus s ctx.readerGroup x .offlineHard g a
      · simp only [if_neg hp]
        exact BackendSet.find?_change s ctx.readerGroup x _ _ g a
    rw [hrow]
    by_cases hk : ctx.readerGroup = g ∧ x = a
    · obtain ⟨rfl, rfl⟩ := hk
      simp [h, servingReader]
    · rw [if_neg hk, if_neg hk]

theorem find?_activateWriter :
    (ctx.activateWriter s x).find? g a =
      if ctx.writerGroup = g ∧ x = a then (s.find? g a).map activated else s.find? g a :=
  BackendSet.find?_change s ctx.writerGroup x _ _ g a

theorem find?_demote :
    (ctx.demote s x).find? g a =
      if ctx.writerGroup = g ∧ x = a then (s.find? g a).map (Backend.withStatus .offlineHard)
      else s.find? g a :=
  BackendSet.find?_setStatus s ctx.writerGroup x .offlineHard g a

def returns : Bool := (s.onlineIn ctx.writerGroup).isEmpty && !ctx.holdsBack x

theorem recover_of_returns (h : ctx.returns s x = true) :
    ctx.recover s x = ctx.activateWriter s x := if_pos h

theorem recover_of_not_returns (h : ctx.returns s x = false) :
    ctx.recover s x = ctx.ensureReader (ctx.demote s x) x := by
  apply if_neg
  simpa [returns] using h

def recoveredRow (returning : Bool) (row : Option Backend) : Option Backend :=
  if returning then if g = ctx.writerGroup then row.map activated else row
  else if g = ctx.writerGroup then row.map (Backend.withStatus .offlineHard)
  else if g = ctx.readerGroup then some (ctx.servingReader a row)
  else row

variable {s g a x}

theorem find?_recover_of_ne (h : x ≠ a) : (ctx.recover s x).find? g a = s.find? g a := by
  by_cases hr : ctx.returns s x = true
  · rw [ctx.recover_of_returns s x hr, find?_activateWriter, if_neg (fun hk => h hk.2)]
  · rw [ctx.recover_of_not_returns s x (by simpa using hr), find?_ensureReader, find?_demote,
      if_neg (fun hk => h hk.2), if_neg (fun hk => h hk.2)]

theorem find?_recover_self (hne : ctx.writerGroup ≠ ctx.readerGroup) :
    (ctx.recover s a).find? g a = ctx.recoveredRow g a (ctx.returns s a) (s.find? g a) := by
  by_cases hr : ctx.returns s a = true
  · rw [ctx.recover_of_returns s a hr, find?_activateWriter, recoveredRow, if_pos hr]
    simp [eq_comm]
  · have hr' : ctx.returns s a = false := by simpa using hr
    rw [ctx.recover_of_not_returns s a hr', find?_ensureReader, find?_demote, recoveredRow, hr']
    by_cases hw : ctx.writerGroup = g
    · subst hw
      simp [Ne.symm hne]
    · by_cases hg : ctx.readerGroup = g
      · subst hg
        simp [hw, Ne.symm hne]
      · simp [hw, hg, Ne.symm hw, Ne.symm hg]

/-! ## Recovery of several nodes -/

def returning? (s : BackendSet) (addrs : List Addr) : Option Addr :=
  if (s.onlineIn ctx.writerGroup).isEmpty then addrs.find? fun a => !ctx.holdsBack a else none

theorem mem_of_returning? {addrs : List Addr} (h : ctx.returning? s addrs = some a) :
    a ∈ addrs := by
  unfold returning? at h
  split at h
  · exact List.mem_of_find?_eq_some h
  · cases h

theorem isEmpty_onlineIn_recover (hne : ctx.writerGroup ≠ ctx.readerGroup) {b : Backend}
    (hb : s.find? ctx.writerGroup x = some b) (ho : b.isOnline = false) :
    ((ctx.recover s x).onlineIn ctx.writerGroup).isEmpty =
      ((s.onlineIn ctx.writerGroup).isEmpty && ctx.holdsBack x) := by
  have hrow := ctx.find?_recover_self (s := s) (g := ctx.writerGroup) (a := x) hne
  rw [recoveredRow, hb] at hrow
  by_cases hr : ctx.returns s x = true
  · rw [if_pos hr, if_pos rfl] at hrow
    have hfalse : ((ctx.recover s x).onlineIn ctx.writerGroup).isEmpty = false := by
      by_contra h
      have hoff := BackendSet.isEmpty_onlineIn_iff.1 (by simpa using h) x _ hrow
      simp [activated, Backend.isOnline, Backend.withRole, Backend.withStatus] at hoff
    simp only [returns, Bool.and_eq_true, Bool.not_eq_true'] at hr
    simp [hfalse, hr.2]
  · have hiff : ((ctx.recover s x).onlineIn ctx.writerGroup).isEmpty =
        (s.onlineIn ctx.writerGroup).isEmpty := by
      rw [if_neg hr, if_pos rfl] at hrow
      rw [Bool.eq_iff_iff, BackendSet.isEmpty_onlineIn_iff, BackendSet.isEmpty_onlineIn_iff]
      constructor
      · intro h a c hc
        by_cases hax : x = a
        · subst hax
          rw [hb] at hc
          cases hc
          exact ho
        · exact h a c (by rw [ctx.find?_recover_of_ne hax, hc])
      · intro h a c hc
        by_cases hax : x = a
        · subst hax
          rw [hrow] at hc
          cases hc
          rfl
        · exact h a c (by rw [← ctx.find?_recover_of_ne hax, hc])
    rw [hiff]
    have hor : (s.onlineIn ctx.writerGroup).isEmpty = false ∨ ctx.holdsBack x = true := by
      simp only [returns, Bool.and_eq_true, Bool.not_eq_true', not_and_or] at hr
      simpa using hr
    rcases hor with h | h <;> simp [h]

theorem returning?_cons_of_returns {rest : List Addr} (h : ctx.returns s x = true) :
    ctx.returning? s (x :: rest) = some x := by
  simp only [returns, Bool.and_eq_true] at h
  simp [returning?, h.1, h.2]

theorem returning?_recover (hne : ctx.writerGroup ≠ ctx.readerGroup) {b : Backend}
    (hb : s.find? ctx.writerGroup x = some b) (ho : b.isOnline = false) (rest : List Addr) :
    ctx.returning? (ctx.recover s x) rest =
      if ctx.returns s x then none else ctx.returning? s (x :: rest) := by
  unfold returning?
  rw [ctx.isEmpty_onlineIn_recover hne hb ho]
  by_cases he : (s.onlineIn ctx.writerGroup).isEmpty = true
  · by_cases hh : ctx.holdsBack x = true
    · simp [returns, he, hh]
    · simp [returns, he, hh]
  · simp [returns, he]

theorem find?_foldl_recover (hne : ctx.writerGroup ≠ ctx.readerGroup) {addrs : List Addr}
    (hnodup : addrs.Nodup) {s : BackendSet}
    (hoff : ∀ x ∈ addrs, ∃ b, s.find? ctx.writerGroup x = some b ∧ b.isOnline = false) :
    (addrs.foldl ctx.recover s).find? g a =
      if a ∈ addrs then
        ctx.recoveredRow g a (decide (ctx.returning? s addrs = some a)) (s.find? g a)
      else s.find? g a := by
  induction addrs generalizing s with
  | nil => rfl
  | cons x rest ih =>
    obtain ⟨hx, hrest⟩ := List.nodup_cons.1 hnodup
    obtain ⟨b, hb, ho⟩ := hoff x (by simp)
    have hoff' : ∀ y ∈ rest,
        ∃ c, (ctx.recover s x).find? ctx.writerGroup y = some c ∧ c.isOnline = false := by
      intro y hy
      have hxy : x ≠ y := fun h => hx (h ▸ hy)
      rw [ctx.find?_recover_of_ne hxy]
      exact hoff y (by simp [hy])
    have hret := ctx.returning?_recover hne hb ho rest
    rw [List.foldl_cons, ih hrest hoff']
    by_cases hxa : x = a
    · subst hxa
      have hback : decide (ctx.returning? s (x :: rest) = some x) = ctx.returns s x := by
        by_cases hr : ctx.returns s x = true
        · simp [ctx.returning?_cons_of_returns hr, hr]
        · rw [if_neg hr] at hret
          have hmiss : ctx.returning? s (x :: rest) ≠ some x := by
            rw [← hret]
            exact fun h => hx (ctx.mem_of_returning? h)
          simp [hmiss, hr]
      rw [if_neg hx, if_pos (by simp), ctx.find?_recover_self hne, hback]
    · rw [ctx.find?_recover_of_ne hxa, hret]
      by_cases hr : ctx.returns s x = true
      · simp [hr, ctx.returning?_cons_of_returns hr, hxa, Ne.symm hxa]
      · simp [hr, Ne.symm hxa]

/-! ## The set before a writer is chosen -/

variable (s)

def settled : BackendSet := s.mapRows ctx.settleWriter ctx.key_settleWriter

def recovered : BackendSet := (ctx.recovering s).foldl ctx.recover (ctx.settled s)

/-- The node that comes back as writer in this pass. -/
def returner? : Option Addr := ctx.returning? (ctx.settled s) (ctx.recovering s)

variable {s}

theorem find?_settled_writer :
    (ctx.settled s).find? ctx.writerGroup a =
      (s.find? ctx.writerGroup a).map fun b => b.withStatus (ctx.settledStatus b) := by
  have hrow : (ctx.settled s).find? ctx.writerGroup a =
      (s.find? ctx.writerGroup a).map ctx.settleWriter :=
    BackendSet.find?_mapRows s ctx.settleWriter ctx.key_settleWriter ctx.writerGroup a
  rw [hrow]
  cases h : s.find? ctx.writerGroup a with
  | none => rfl
  | some b => simp [settleWriter, (BackendSet.find?_eq_some_iff.1 h).2.1]

theorem find?_settled_of_ne (h : g ≠ ctx.writerGroup) :
    (ctx.settled s).find? g a = s.find? g a := by
  have hrow : (ctx.settled s).find? g a = (s.find? g a).map ctx.settleWriter :=
    BackendSet.find?_mapRows s ctx.settleWriter ctx.key_settleWriter g a
  rw [hrow]
  cases hb : s.find? g a with
  | none => rfl
  | some b =>
    have hg := (BackendSet.find?_eq_some_iff.1 hb).2.1
    simp [settleWriter, hg, h]

theorem mem_recovering :
    a ∈ ctx.recovering s ↔
      ∃ b, s.find? ctx.writerGroup a = some b ∧ ctx.isRecovering b = true := by
  simp only [recovering, List.mem_map, List.mem_filter]
  constructor
  · rintro ⟨b, ⟨hb, hr⟩, rfl⟩
    exact ⟨b, BackendSet.mem_inHostgroup.1 hb, hr⟩
  · rintro ⟨b, hb, hr⟩
    have ha := (BackendSet.find?_eq_some_iff.1 hb).2.2
    subst ha
    exact ⟨b, ⟨BackendSet.mem_inHostgroup.2 hb, hr⟩, rfl⟩

theorem nodup_recovering (s : BackendSet) : (ctx.recovering s).Nodup :=
  BackendSet.nodup_addr_filter s ctx.writerGroup _

theorem not_online_of_recovering (h : a ∈ ctx.recovering s) :
    ∃ b, (ctx.settled s).find? ctx.writerGroup a = some b ∧ b.isOnline = false := by
  obtain ⟨b, hb, hr⟩ := ctx.mem_recovering.1 h
  refine ⟨b.withStatus (ctx.settledStatus b), by rw [find?_settled_writer, hb]; rfl, ?_⟩
  by_contra ho
  have hstays : ctx.staysOnline b = true := by
    rw [← ctx.settledStatus_eq_online_iff]
    simpa [Backend.isOnline_withStatus] using ho
  rw [ctx.not_staysOnline_of_isRecovering hr] at hstays
  cases hstays

theorem find?_recovered (hne : ctx.writerGroup ≠ ctx.readerGroup) :
    (ctx.recovered s).find? g a =
      if a ∈ ctx.recovering s then
        ctx.recoveredRow g a (decide (ctx.returner? s = some a)) ((ctx.settled s).find? g a)
      else (ctx.settled s).find? g a :=
  ctx.find?_foldl_recover hne (ctx.nodup_recovering s) fun _ h => ctx.not_online_of_recovering h

/-- A writer row before the choice: back in service, still in service, or at rest. -/
theorem find?_recovered_writer (hne : ctx.writerGroup ≠ ctx.readerGroup) :
    (ctx.recovered s).find? ctx.writerGroup a =
      (s.find? ctx.writerGroup a).map fun b =>
        if ctx.returner? s = some a then activated b
        else if ctx.staysOnline b then b else ctx.rest b := by
  rw [ctx.find?_recovered hne, find?_settled_writer]
  cases hb : s.find? ctx.writerGroup a with
  | none => split <;> simp [recoveredRow]
  | some b =>
    by_cases hr : ctx.isRecovering b = true
    · have hmem := ctx.mem_recovering.2 ⟨b, hb, hr⟩
      have hrest : ctx.rest b = b.withStatus .offlineHard := by
        rw [rest, ctx.restingStatus_of_routable (ctx.routable_of_isRecovering hr)]
      rw [if_pos hmem]
      by_cases hback : ctx.returner? s = some a
      · simp [recoveredRow, hback, activated, Backend.withStatus]
      · simp [recoveredRow, hback, ctx.not_staysOnline_of_isRecovering hr, hrest,
          Backend.withStatus]
    · have hr' : ctx.isRecovering b = false := by simpa using hr
      have hmem : a ∉ ctx.recovering s := by
        intro h
        obtain ⟨c, hc, hrc⟩ := ctx.mem_recovering.1 h
        rw [hb] at hc
        cases hc
        exact hr hrc
      have hback : ctx.returner? s ≠ some a := fun h => hmem (ctx.mem_of_returning? h)
      rw [if_neg hmem]
      by_cases hs : ctx.staysOnline b = true
      · have ho : b.status = .online := Backend.isOnline_iff.1 (ctx.isOnline_of_staysOnline hs)
        simp [hback, hs, ctx.settledStatus_of_staysOnline hs, ← ho, Backend.withStatus]
      · have hs' : ctx.staysOnline b = false := by simpa using hs
        simp [hback, hs', rest, ctx.settledStatus_eq_resting hs' hr']

theorem find?_recovered_reader (hne : ctx.writerGroup ≠ ctx.readerGroup) :
    (ctx.recovered s).find? ctx.readerGroup a =
      if a ∈ ctx.recovering s ∧ ctx.returner? s ≠ some a then
        some (ctx.servingReader a (s.find? ctx.readerGroup a))
      else s.find? ctx.readerGroup a := by
  rw [ctx.find?_recovered hne, ctx.find?_settled_of_ne hne.symm]
  by_cases hm : a ∈ ctx.recovering s
  · by_cases hback : ctx.returner? s = some a <;> simp [hm, hback, recoveredRow, hne.symm]
  · simp [hm]

theorem find?_recovered_other (hne : ctx.writerGroup ≠ ctx.readerGroup)
    (hw : g ≠ ctx.writerGroup) (hr : g ≠ ctx.readerGroup) :
    (ctx.recovered s).find? g a = s.find? g a := by
  rw [ctx.find?_recovered hne, ctx.find?_settled_of_ne hw]
  split
  · simp [recoveredRow, hw, hr]
  · rfl

/-! ## Reshaping -/

theorem reworked_settleWriter (b : Backend) : b.Reworked (ctx.settleWriter b) := by
  unfold settleWriter
  split
  · exact b.reworked_withStatus _
  · exact b.reworked_refl

theorem reshaped_activateWriter (s : BackendSet) (a : Addr) :
    BackendSet.Reshaped [ctx.writerGroup, ctx.readerGroup] s (ctx.activateWriter s a) :=
  BackendSet.reshaped_change s ctx.writerGroup a _ _ fun b => b.reworked_withRole .online .writer

theorem reshaped_demote (s : BackendSet) (a : Addr) :
    BackendSet.Reshaped [ctx.writerGroup, ctx.readerGroup] s (ctx.demote s a) :=
  BackendSet.reshaped_setStatus s ctx.writerGroup a .offlineHard

theorem reshaped_ensureReader (s : BackendSet) (a : Addr) :
    BackendSet.Reshaped [ctx.writerGroup, ctx.readerGroup] s (ctx.ensureReader s a) := by
  cases h : s.find? ctx.readerGroup a with
  | none =>
    simp only [ensureReader, h]
    exact BackendSet.reshaped_insert_new s (by simp) a .reader h
  | some b =>
    simp only [ensureReader, h]
    split
    · exact BackendSet.reshaped_setStatus s ctx.readerGroup a .offlineHard
    · exact BackendSet.reshaped_change s ctx.readerGroup a _ _ fun b =>
        b.reworked_withRole .online .reader

theorem reshaped_recover (s : BackendSet) (a : Addr) :
    BackendSet.Reshaped [ctx.writerGroup, ctx.readerGroup] s (ctx.recover s a) := by
  unfold recover
  split
  · exact ctx.reshaped_activateWriter s a
  · exact (ctx.reshaped_demote s a).trans (ctx.reshaped_ensureReader (ctx.demote s a) a)

theorem reshaped_recovered (s : BackendSet) :
    BackendSet.Reshaped [ctx.writerGroup, ctx.readerGroup] s (ctx.recovered s) :=
  (BackendSet.reshaped_mapRows s _ _ ctx.reworked_settleWriter).trans
    (BackendSet.reshaped_foldl ctx.recover ctx.reshaped_recover _ _)

/-! ## Contexts that agree -/

structure Agrees (ctx other : PlanContext) : Prop where
  writerGroup : other.writerGroup = ctx.writerGroup
  readerGroup : other.readerGroup = ctx.readerGroup
  health : ∀ a, other.health.health a = ctx.health.health a
  holdsBack : ∀ a, ctx.health.health a = .routable → other.holdsBack a = ctx.holdsBack a

namespace Agrees

variable {ctx} {other : PlanContext} (h : ctx.Agrees other)

include h

theorem settleWriter_eq (b : Backend) : other.settleWriter b = ctx.settleWriter b := by
  have hstatus : other.settledStatus b = ctx.settledStatus b := by
    unfold settledStatus
    rw [h.health]
    cases hh : ctx.health.health b.addr with
    | absent => rfl
    | unreachable => rfl
    | unfit => rfl
    | routable => rw [h.holdsBack b.addr hh]
  unfold settleWriter
  rw [hstatus, h.writerGroup]

theorem recover_eq (s : BackendSet) (ha : ctx.health.health a = .routable) :
    other.recover s a = ctx.recover s a := by
  simp only [recover, activateWriter, ensureReader, writerKey, readerKey, h.writerGroup,
    h.readerGroup, h.holdsBack a ha]

theorem recovering_eq (s : BackendSet) : other.recovering s = ctx.recovering s := by
  have hrow : other.isRecovering = ctx.isRecovering := by
    funext b
    rw [isRecovering, isRecovering, h.health]
  rw [recovering, recovering, h.writerGroup, hrow]

/-- Up to the choice of a writer, the order of the candidates is never asked for. -/
theorem recovered_eq (s : BackendSet) : other.recovered s = ctx.recovered s := by
  have hsettled : other.settled s = ctx.settled s :=
    Table.ext_rows (List.map_congr_left fun b _ => h.settleWriter_eq b)
  unfold recovered
  rw [hsettled, h.recovering_eq]
  apply List.foldl_ext
  intro t a ha
  obtain ⟨b, hb, hr⟩ := ctx.mem_recovering.1 ha
  have hhealth := ctx.routable_of_isRecovering hr
  rw [(BackendSet.find?_eq_some_iff.1 hb).2.2] at hhealth
  exact h.recover_eq t hhealth

end Agrees

end SingleWriter.PlanContext
