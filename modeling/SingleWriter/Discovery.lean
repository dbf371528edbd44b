import SingleWriter.NodeAccess
import SingleWriter.Membership

/-!
# Discovery

The membership of a cluster is found from one seed: the seed has to be primary, and
of the peers it reports, other than its own host, those belong that are primary and
share its state identifier. A peer that cannot be read makes the seed useless, since
a membership from a partial view would be wrong. Of several seeds the first useful
one decides; when there is none, the error of the last seed is the answer.
-/

set_option autoImplicit false

namespace SingleWriter.Discovery

variable {σ : Type} (nodes : NodeAccess σ)

def fetch (addr : Addr) : Action σ Node := Action.mapError (·.ofAddr addr) (nodes.fetch addr)

def peers (addr : Addr) : Action σ (List Addr) := Action.mapError (·.ofAddr addr) (nodes.peers addr)

def belongs (stateId : Uuid) (node : Node) : Bool := node.stateId = stateId && node.isPrimary

def gather (stateId : Uuid) : List Addr → Membership → Action σ Membership
  | [], found => return found
  | peer :: rest, found => do
    let node ← fetch nodes peer
    gather stateId rest (if belongs stateId node then Table.insert found node else found)

def discover (seed : Addr) : Action σ Membership := do
  let node ← fetch nodes seed
  if !node.isPrimary then throw (.nonPrimary seed.text)
  let reported ← peers nodes seed
  gather nodes node.stateId (reported.filter (·.host ≠ seed.host)) (Table.insert Table.empty node)

def firstUseful (last : PassError) : List Addr → Action σ Membership
  | [] => throw last
  | seed :: rest => fun s =>
    match discover nodes seed s with
    | .ok found s => .ok found s
    | .error e s => firstUseful e rest s

def discoverAny (seeds : List Addr) : Action σ Membership :=
  firstUseful nodes .clusterUnavailable seeds

end SingleWriter.Discovery
