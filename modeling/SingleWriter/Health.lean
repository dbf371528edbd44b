import SingleWriter.Node
import SingleWriter.Backend

/-!
# Health of the members

Every member is probed once in a pass. A probe that fails is a finding, not an
error. An address that was not probed is absent. The candidates are the addresses
that may take traffic, in the order of the probes.
-/

set_option autoImplicit false

namespace SingleWriter

inductive Health where
  /-- Serves in the tier of the pass. -/
  | routable
  /-- Answers, but must not take traffic. -/
  | unfit
  | unreachable
  | absent
  deriving DecidableEq

namespace Health

def name : Health → String
  | .routable => "routable"
  | .unfit => "unsafe"
  | .unreachable => "unreachable"
  | .absent => "absent"

/-- The status a row of a node in this health goes to. -/
def target : Health → Status
  | .routable => .online
  | .unfit => .offlineSoft
  | .unreachable => .offlineHard
  | .absent => .offlineHard

end Health

structure Probe where
  addr : Addr
  answer : Except NodeError Node

structure Finding where
  addr : Addr
  health : Health
  servingDonor : Bool
  deriving DecidableEq

def Probe.finding (tier : LocalState) (p : Probe) : Finding :=
  match p.answer with
  | .ok node => ⟨p.addr, if node.servesIn tier then .routable else .unfit, node.isServingDonor⟩
  | .error _ => ⟨p.addr, .unreachable, false⟩

structure HealthMap where
  findings : List Finding
  deriving DecidableEq

namespace HealthMap

def ofProbes (tier : LocalState) (probes : List Probe) : HealthMap :=
  ⟨probes.map (Probe.finding tier)⟩

def health (m : HealthMap) (addr : Addr) : Health :=
  ((m.findings.find? (·.addr = addr)).map Finding.health).getD .absent

def candidates (m : HealthMap) : List Addr :=
  (m.findings.filter (·.health = .routable)).map Finding.addr

def isServingDonor (m : HealthMap) (addr : Addr) : Bool :=
  m.findings.any fun f => f.addr = addr && f.servingDonor

/-- No address was probed twice. -/
def Distinct (m : HealthMap) : Prop := (m.findings.map Finding.addr).Nodup

end HealthMap

end SingleWriter
