import SingleWriter.BackendSet
import SingleWriter.Health
import SingleWriter.Blacklist

/-!
# Plans

A plan turns the rows of the two hostgroups into the rows they should be, without
touching anything else. It settles the writer rows by the health of their nodes,
brings back at most one recovering writer, keeps the first online writer or elects
one, lets the reader rows follow the health of their nodes, adds readers for
candidates that have no row, and finally decides whether the writer also reads and
whether a donor does.

A row that is `OFFLINE_HARD` is brought back only by election or once its node is
routable. A pinned row is never brought back, and a pinned address is never elected.
-/

set_option autoImplicit false

namespace SingleWriter

/-- What stays fixed for one pass. -/
structure PlanContext where
  writerGroup : UInt32
  readerGroup : UInt32
  health : HealthMap
  blacklist : Blacklist

structure Plan where
  backends : BackendSet
  writer : Option Addr

namespace PlanContext

variable (ctx : PlanContext)

/-- Some candidate is not blacklisted. -/
def hasUnlisted : Bool := ctx.health.candidates.any fun addr => !ctx.blacklist.contains addr

/-- A blacklisted node stands back as long as some candidate is not blacklisted. -/
def holdsBack (addr : Addr) : Bool := ctx.blacklist.contains addr && ctx.hasUnlisted

def writerKey (addr : Addr) : Backend.Key := ⟨ctx.writerGroup, addr⟩

def readerKey (addr : Addr) : Backend.Key := ⟨ctx.readerGroup, addr⟩

/-! ## Writer -/

/-- The status of a writer row before any row is brought back. -/
def settledStatus (b : Backend) : Status :=
  if b.isPinned || b.isRemoved then .offlineHard
  else match ctx.health.health b.addr with
    | .absent => .offlineHard
    | .unreachable => .offlineHard
    | .unfit => .offlineSoft
    | .routable => if b.isOnline && ctx.holdsBack b.addr then .offlineHard else b.status

def settleWriter (b : Backend) : Backend :=
  if b.hostgroup = ctx.writerGroup then b.withStatus (ctx.settledStatus b) else b

theorem key_settleWriter (b : Backend) : (ctx.settleWriter b).key = b.key := by
  unfold settleWriter
  split <;> rfl

/-- The writer row was out of service, but its node is routable again. -/
def isRecovering (b : Backend) : Bool :=
  !b.isPinned && !b.isRemoved && !b.isOnline && ctx.health.health b.addr = .routable

def recovering (s : BackendSet) : List Addr :=
  ((s.inHostgroup ctx.writerGroup).filter ctx.isRecovering).map Backend.addr

/-- Make a row of the address serve reads, unless it is pinned; a missing row is added. -/
def ensureReader (s : BackendSet) (addr : Addr) : BackendSet :=
  match s.find? ctx.readerGroup addr with
  | some b =>
    if b.isPinned then s.setStatus (ctx.readerKey addr) .offlineHard
    else s.change (ctx.readerKey addr) fun b => (b.withStatus .online).withRole .reader
  | none => s.insert (Backend.new ctx.readerGroup addr .reader)

def activateWriter (s : BackendSet) (addr : Addr) : BackendSet :=
  s.change (ctx.writerKey addr) fun b => (b.withStatus .online).withRole .writer

/-- A recovering writer returns when there is no writer and it need not stand back; else it becomes a reader. -/
def recover (s : BackendSet) (addr : Addr) : BackendSet :=
  if (BackendSet.onlineIn s ctx.writerGroup).isEmpty && !ctx.holdsBack addr then ctx.activateWriter s addr
  else ctx.ensureReader (s.setStatus (ctx.writerKey addr) .offlineHard) addr

def demote (s : BackendSet) (addr : Addr) : BackendSet :=
  s.setStatus (ctx.writerKey addr) .offlineHard

/-- Candidates that are not pinned in any hostgroup, in the order of the probes. -/
def eligible (s : BackendSet) : List Addr := ctx.health.candidates.filter fun addr => !s.isPinned addr

def choose? (s : BackendSet) : Option Addr :=
  ((ctx.eligible s).find? fun addr => !ctx.blacklist.contains addr).or (ctx.eligible s).head?

def install (s : BackendSet) (addr : Addr) : BackendSet :=
  match s.find? ctx.writerGroup addr with
  | some _ => ctx.activateWriter s addr
  | none => s.insert (Backend.new ctx.writerGroup addr .writer)

/-- Keep the first online writer and demote the others; without one, elect. -/
def electFrom (s : BackendSet) : BackendSet × Option Addr :=
  match (BackendSet.onlineIn s ctx.writerGroup).map Backend.addr with
  | kept :: extra => (extra.foldl ctx.demote s, some kept)
  | [] =>
    match ctx.choose? s with
    | some addr => (ctx.install s addr, some addr)
    | none => (s, none)

def elect (s : BackendSet) : BackendSet × Option Addr :=
  ctx.electFrom ((ctx.recovering s).foldl ctx.recover (s.mapRows ctx.settleWriter ctx.key_settleWriter))

/-! ## Readers -/

/-- A reader row follows its node; a removed row comes back only when the node is routable. -/
def followHealth (b : Backend) : Backend :=
  if b.isPinned then b.withStatus .offlineHard
  else match ctx.health.health b.addr with
    | .routable => (b.withStatus .online).withRole .reader
    | .unfit => if b.isRemoved then b else b.withStatus .offlineSoft
    | .unreachable => b.withStatus .offlineHard
    | .absent => b.withStatus .offlineHard

def settleReader (writer : Option Addr) (b : Backend) : Backend :=
  if b.hostgroup = ctx.readerGroup ∧ writer ≠ some b.addr then ctx.followHealth b else b

theorem key_followHealth (b : Backend) : (ctx.followHealth b).key = b.key := by
  unfold followHealth
  split
  · rfl
  · split <;> try rfl
    split <;> rfl

theorem key_settleReader (writer : Option Addr) (b : Backend) :
    (ctx.settleReader writer b).key = b.key := by
  unfold settleReader
  split
  · exact ctx.key_followHealth b
  · rfl

/-- When no other reader is online, the writer serves reads too. -/
def fallback (s : BackendSet) (writer : Addr) : BackendSet :=
  if (BackendSet.onlineIn s ctx.readerGroup).any (·.addr ≠ writer) then s else ctx.ensureReader s writer

def convergeReaders (s : BackendSet) (writer : Option Addr) : BackendSet :=
  let settled := s.mapRows (ctx.settleReader writer) (ctx.key_settleReader writer)
  match writer with
  | some addr => ctx.fallback settled addr
  | none => settled

def isLiveWriter (s : BackendSet) (addr : Addr) : Bool :=
  (s.find? ctx.writerGroup addr).any fun b => !b.isRemoved

/-- A candidate without a reader row, without a live writer row and without a pin becomes a reader. -/
def addReader (s : BackendSet) (addr : Addr) : BackendSet :=
  if (s.find? ctx.readerGroup addr).isSome || ctx.isLiveWriter s addr || s.isPinned addr then s
  else s.insert (Backend.new ctx.readerGroup addr .reader)

def fillReaders (s : BackendSet) : BackendSet := ctx.health.candidates.foldl ctx.addReader s

/-- With more than two live readers, of which another one is not only draining, the writer stops reading. -/
def retireWriterReader (s : BackendSet) (writer : Addr) : BackendSet :=
  let live := BackendSet.liveIn s ctx.readerGroup
  if (s.find? ctx.readerGroup writer).any (fun b => !b.isRemoved) ∧ 2 < live.length ∧
      live.any (fun b => b.addr ≠ writer ∧ b.status ≠ .offlineSoft) then
    s.setStatus (ctx.readerKey writer) .offlineHard
  else s

/-- When only the writer and a serving donor are left, the donor serves reads. -/
def promoteDonor (s : BackendSet) (writer : Addr) : BackendSet :=
  match s.lastCompanion? writer with
  | none => s
  | some donor =>
    if ctx.health.isServingDonor donor then
      s.change (ctx.readerKey donor)
        (fun b =>
          if b.isPinned || b.isRemoved || b.isOnline then b
          else (b.withStatus .online).withRole .reader)
        (by intro b; split <;> rfl)
    else s

def finish (s : BackendSet) : Option Addr → BackendSet
  | some writer => ctx.promoteDonor (ctx.retireWriterReader s writer) writer
  | none => s

def plan (current : BackendSet) : Plan :=
  let (elected, writer) := ctx.elect current
  ⟨ctx.finish (ctx.fillReaders (ctx.convergeReaders elected writer)) writer, writer⟩

end PlanContext

end SingleWriter
