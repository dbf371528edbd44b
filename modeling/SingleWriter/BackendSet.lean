import SingleWriter.Backend
import SingleWriter.Table

/-!
# Sets of backends

The rows of one or more hostgroups, unique by key, in the order in which they were
loaded.
-/

set_option autoImplicit false

namespace SingleWriter

abbrev BackendSet := Table Backend.key

namespace BackendSet

def find? (s : BackendSet) (hostgroup : UInt32) (addr : Addr) : Option Backend :=
  s.get? ⟨hostgroup, addr⟩

def inHostgroup (s : BackendSet) (hostgroup : UInt32) : List Backend :=
  s.rows.filter (·.hostgroup = hostgroup)

def keysIn (s : BackendSet) (hostgroup : UInt32) : List Backend.Key :=
  (s.inHostgroup hostgroup).map Backend.key

def liveIn (s : BackendSet) (hostgroup : UInt32) : List Backend :=
  (s.inHostgroup hostgroup).filter (!·.isRemoved)

def onlineIn (s : BackendSet) (hostgroup : UInt32) : List Backend :=
  (s.inHostgroup hostgroup).filter (·.isOnline)

def count (s : BackendSet) (hostgroup : UInt32) (status : Status) : Nat :=
  (s.inHostgroup hostgroup).countP (·.status = status)

def hasAddr (s : BackendSet) (addr : Addr) : Bool := s.rows.any (·.addr = addr)

/-- Some row of the address carries an override to `OFFLINE_HARD`, in whatever hostgroup. -/
def isPinned (s : BackendSet) (addr : Addr) : Bool :=
  s.rows.any fun b => b.addr = addr && b.isPinned

def setStatus (s : BackendSet) (k : Backend.Key) (status : Status) : BackendSet :=
  s.change k (Backend.withStatus status)

/-- The one other address with a live row, when there is exactly one beside the writer. -/
def lastCompanion? (s : BackendSet) (writer : Addr) : Option Addr :=
  let live := (s.rows.filter (!·.isRemoved)).map Backend.addr
  match live.filter (· ≠ writer) with
  | companion :: others => if writer ∈ live ∧ others.all (· = companion) then some companion else none
  | [] => none

end BackendSet

end SingleWriter
