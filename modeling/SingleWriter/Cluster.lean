import SingleWriter.NodeAccess
import SingleWriter.Membership

/-!
# A cluster in memory

The members of a cluster, one to an address. A member can be unreachable, can be
given a number of answers after which it times out, and can report a peer list of
its own; otherwise it reports every member.
-/

set_option autoImplicit false

namespace SingleWriter

structure Member where
  node : Node
  peers : Option (List Addr) := none
  isUnreachable : Bool := false
  /-- Status reads that will still be answered; `none` is no limit. -/
  answersLeft : Option Nat := none
  isDesynced : Bool := false
  deriving DecidableEq

def Member.addr (m : Member) : Addr := m.node.addr

abbrev Cluster := Table Member.addr

namespace Cluster

def add (c : Cluster) (node : Node) : Cluster := c.insert { node }

def ofNodes (nodes : List Node) : Cluster := nodes.foldl add Table.empty

def remove (c : Cluster) (addr : Addr) : Cluster := c.filter (·.addr ≠ addr)

def setState (c : Cluster) (addr : Addr) (state : LocalState) : Cluster :=
  c.change addr fun m => { m with node := { m.node with state } }

def setPrimary (c : Cluster) (addr : Addr) (isPrimary : Bool) : Cluster :=
  c.change addr fun m => { m with node := { m.node with isPrimary } }

def setRejectsQueries (c : Cluster) (addr : Addr) (rejectsQueries : Bool) : Cluster :=
  c.change addr fun m => { m with node := { m.node with rejectsQueries } }

def setRejectsAsDonor (c : Cluster) (addr : Addr) (rejectsAsDonor : Bool) : Cluster :=
  c.change addr fun m => { m with node := { m.node with rejectsAsDonor } }

def setPeers (c : Cluster) (addr : Addr) (peers : List Addr) : Cluster :=
  c.change addr fun m => { m with peers := some peers }

def setUnreachable (c : Cluster) (addr : Addr) (isUnreachable : Bool) : Cluster :=
  c.change addr fun m => { m with isUnreachable }

def limitAnswers (c : Cluster) (addr : Addr) (answers : Nat) : Cluster :=
  c.change addr fun m => { m with answersLeft := some answers }

def isDesynced (c : Cluster) (addr : Addr) : Bool := (c.get? addr).any (·.isDesynced)

def addresses (c : Cluster) : List Addr := c.rows.map Member.addr

def reach (addr : Addr) : EStateM NodeError Cluster Member := fun c =>
  match c.get? addr with
  | none => .error (.connect s!"no route to {addr}") c
  | some m =>
    if m.isUnreachable then .error (.connect s!"connection refused by {addr}") c else .ok m c

def fetch (addr : Addr) : EStateM NodeError Cluster Node := do
  let m ← reach addr
  match m.answersLeft with
  | none => return m.node
  | some 0 => throw (.timeout 5)
  | some (n + 1) =>
    modify fun c => Table.change c addr fun m => { m with answersLeft := some n }
    return m.node

def peers (addr : Addr) : EStateM NodeError Cluster (List Addr) := do
  let m ← reach addr
  return m.peers.getD (← get).addresses

/-- Unreachable members are switched too. -/
def setDesync (addr : Addr) (isDesynced : Bool) : EStateM NodeError Cluster Unit := do
  let c ← get
  if c.contains addr then set (c.change addr fun m => { m with isDesynced } : Cluster)
  else throw (.connect s!"no route to {addr}")

def access : NodeAccess Cluster where
  fetch := fetch
  peers := peers
  setDesync := setDesync

end Cluster

end SingleWriter
