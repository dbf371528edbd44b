import SingleWriter.Addr
import SingleWriter.Text.Case

/-!
# Backends of the router

A backend is one row of the router's server table: an address in a hostgroup, with
a status, six tuning columns and an annotation. Hostgroup and address are its key.
The annotation holds the role the row is used for and the operator's override; an
override to `OFFLINE_HARD` pins the row. A row that is `OFFLINE_HARD` counts as
removed.
-/

set_option autoImplicit false

namespace SingleWriter

inductive Status where
  | online
  | shunned
  | offlineSoft
  | offlineHard
  deriving DecidableEq

namespace Status

def name : Status → String
  | .online => "ONLINE"
  | .shunned => "SHUNNED"
  | .offlineSoft => "OFFLINE_SOFT"
  | .offlineHard => "OFFLINE_HARD"

instance : ToString Status := ⟨name⟩

structure Unknown where
  text : String
  deriving DecidableEq

def Unknown.message (e : Unknown) : String := s!"unknown backend status '{e.text}'"

/-- A status name is read in any letter case and between blanks. -/
def parse (s : String) : Except Unknown Status :=
  match Text.raised (Text.trimmed s) with
  | "ONLINE" => .ok .online
  | "SHUNNED" => .ok .shunned
  | "OFFLINE_SOFT" => .ok .offlineSoft
  | "OFFLINE_HARD" => .ok .offlineHard
  | other => .error ⟨other⟩

end Status

inductive Role where
  | none
  | reader
  | writer
  deriving DecidableEq, Inhabited

namespace Role

def name : Role → String
  | .none => "none"
  | .reader => "reader"
  | .writer => "writer"

/-- Any name but the two roles means no role. -/
def ofName (s : String) : Role :=
  match Text.lowered (Text.trimmed s) with
  | "writer" => .writer
  | "reader" => .reader
  | _ => .none

end Role

structure Annotation where
  role : Role := .none
  override : Option Status := none
  deriving DecidableEq, Inhabited

namespace Backend

structure Key where
  hostgroup : UInt32
  addr : Addr
  deriving DecidableEq, Inhabited

def Key.text (k : Key) : String := s!"{k.addr}@hg{Text.decimalText k.hostgroup.toNat}"

instance : ToString Key := ⟨Key.text⟩

instance : Ord Key := ⟨compareLex (compareOn Key.hostgroup) (compareOn Key.addr)⟩

end Backend

structure Backend where
  hostgroup : UInt32
  addr : Addr
  status : Status := .online
  weight : UInt32 := 1
  compression : UInt32 := 0
  maxConnections : UInt32 := 10000
  maxReplicationLag : UInt32 := 0
  useSsl : Bool := false
  maxLatencyMs : UInt32 := 0
  annotation : Annotation := {}
  deriving DecidableEq

namespace Backend

def key (b : Backend) : Key := ⟨b.hostgroup, b.addr⟩

def text (b : Backend) : String := b.key.text

instance : ToString Backend := ⟨text⟩

/-- A new row has the default columns and no override. -/
def new (hostgroup : UInt32) (addr : Addr) (role : Role) (status : Status := .online) : Backend :=
  { hostgroup, addr, status, annotation := { role } }

def withStatus (status : Status) (b : Backend) : Backend := { b with status }

def withRole (role : Role) (b : Backend) : Backend :=
  { b with annotation := { b.annotation with role } }

def withOverride (override : Option Status) (b : Backend) : Backend :=
  { b with annotation := { b.annotation with override } }

def isPinned (b : Backend) : Bool := b.annotation.override = some .offlineHard

def isRemoved (b : Backend) : Bool := b.status = .offlineHard

def isOnline (b : Backend) : Bool := b.status = .online

theorem key_withStatus (status : Status) (b : Backend) : (b.withStatus status).key = b.key := rfl

end Backend

end SingleWriter
