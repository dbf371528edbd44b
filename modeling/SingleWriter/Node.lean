import SingleWriter.Errors
import SingleWriter.Uuid
import SingleWriter.Text.Case

/-!
# Cluster nodes

A node is what one server of the cluster reports about itself at one moment. It is
built from status variables whose names are matched in any letter case. The state
identifier and the local state are checked first, then the cluster name and the
cluster status have to be present; the two flags that stop queries are off when
they are not reported.

A tier is the local state from which the cluster takes its traffic. A node serves
in a tier when it is primary, in exactly that state, and accepts queries; a donor
also has to keep serving during its transfer.
-/

set_option autoImplicit false

namespace SingleWriter

inductive LocalState where
  | joining
  | donor
  | joined
  | synced
  deriving DecidableEq

namespace LocalState

def name : LocalState → String
  | .joining => "JOINING"
  | .donor => "DONOR_DESYNCED"
  | .joined => "JOINED"
  | .synced => "SYNCED"

def number : LocalState → UInt8
  | .joining => 1
  | .donor => 2
  | .joined => 3
  | .synced => 4

def ofNumber? (n : UInt8) : Option LocalState :=
  [joining, donor, joined, synced].find? fun s => s.number = n

theorem ofNumber?_number (s : LocalState) : ofNumber? s.number = some s := by
  cases s <;> rfl

end LocalState

structure Node where
  addr : Addr
  clusterName : String
  stateId : Uuid
  isPrimary : Bool
  state : LocalState
  rejectsQueries : Bool
  rejectsAsDonor : Bool
  deriving DecidableEq

/-- Status variables, each name at most once. -/
abbrev Variables := List (String × String)

namespace Variables

def stateId : String := "wsrep_cluster_state_uuid"
def clusterStatus : String := "wsrep_cluster_status"
def localState : String := "wsrep_local_state"
def clusterName : String := "wsrep_cluster_name"
def incomingAddresses : String := "wsrep_incoming_addresses"
def rejectQueries : String := "wsrep_reject_queries"
def donorRejects : String := "wsrep_sst_donor_rejects_queries"

/-- The value of the variable with this lower-case name. -/
def get? (vs : Variables) (name : String) : Option String :=
  (vs.find? fun v => Text.lowered v.1 = name).map Prod.snd

def need (vs : Variables) (name : String) : Except NodeError String :=
  match vs.get? name with
  | some value => .ok value
  | none => .error (.malformed s!"missing {name}")

end Variables

namespace Node

instance : ToString Node := ⟨fun n => n.addr.text⟩

def isOn (value : String) : Bool :=
  Text.lowered (Text.trimmed value) ∈ ["on", "1", "yes", "true"]

def isNone (value : String) : Bool := Text.sameUpToCase (Text.trimmed value) "none"

def saysPrimary (value : String) : Bool := Text.sameUpToCase (Text.trimmed value) "primary"

def readStateId (value : String) : Except NodeError Uuid :=
  match Uuid.read (Text.trim value.toList) with
  | .ok u => .ok u
  | .error fault =>
    .error (.malformed s!"{Variables.stateId} '{value}': {fault.message}")

def readState (value : String) : Except NodeError LocalState :=
  match (Text.byte? (Text.trim value.toList)).bind LocalState.ofNumber? with
  | some s => .ok s
  | none => .error (.malformed s!"{Variables.localState} '{value}'")

def ofVariables (addr : Addr) (vs : Variables) : Except NodeError Node := do
  let stateId ← readStateId (← vs.need Variables.stateId)
  let state ← readState (← vs.need Variables.localState)
  let clusterName ← vs.need Variables.clusterName
  let status ← vs.need Variables.clusterStatus
  return {
    addr, clusterName, stateId, state
    isPrimary := saysPrimary status
    rejectsQueries := ((vs.get? Variables.rejectQueries).map (!isNone ·)).getD false
    rejectsAsDonor := ((vs.get? Variables.donorRejects).map isOn).getD false }

def isDonor (n : Node) : Bool := n.state = .donor

def servesIn (n : Node) (tier : LocalState) : Bool :=
  n.isPrimary && n.state = tier && !n.rejectsQueries && !(n.isDonor && n.rejectsAsDonor)

/-- A primary donor that keeps serving queries during its transfer. -/
def isServingDonor (n : Node) : Bool :=
  n.isPrimary && n.isDonor && !n.rejectsQueries && !n.rejectsAsDonor

end Node

end SingleWriter
