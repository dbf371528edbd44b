import SingleWriter.Discovery
import SingleWriter.AdminStore
import SingleWriter.Endpoint
import SingleWriter.Mutation
import SingleWriter.Plan

/-!
# Reconciliation

One pass finds the members, probes each once, loads the rows of both hostgroups,
plans, and applies the difference. Nothing is written unless some member can take
traffic. After the writes the router reloads once; when a write fails, the pass ends
there and a reload is still attempted, so that the router has what was written.

The operator commands set or clear the override of an address, list a hostgroup,
check the admin interface and switch the desync flag of a node.
-/

set_option autoImplicit false

namespace SingleWriter

structure PassRequest where
  writerGroup : UInt32 := 10
  readerGroup : UInt32 := 11
  seeds : List Addr := []
  blacklist : Blacklist := {}

structure Report where
  writer : Option Addr
  mutations : List Mutation

structure Reconciler (σ : Type) where
  nodes : NodeAccess σ
  admin : AdminStore σ
  /-- Credentials with which the router watches its backends. -/
  monitor : Option Credentials := none

namespace Reconciler

variable {σ : Type} (r : Reconciler σ)

def probe : List Addr → Action σ (List Probe)
  | [] => return []
  | addr :: rest => do
    let answer ← Action.outcome (r.nodes.fetch addr)
    return ⟨addr, answer⟩ :: (← probe rest)

/-- Health of the members, when at least one of them can take traffic. -/
def survey (seeds : List Addr) : Action σ HealthMap := do
  let members ← Discovery.discoverAny r.nodes seeds
  match members.tier? with
  | none => throw .clusterUnavailable
  | some tier =>
    let health := HealthMap.ofProbes tier (← r.probe members.addresses)
    if health.candidates.isEmpty then throw .clusterUnavailable
    return health

def loadRows : List UInt32 → Action σ (List Backend)
  | [] => return []
  | hostgroup :: rest => do
    let rows ← r.admin.backendsOrNone hostgroup
    return rows ++ (← loadRows rest)

def load (hostgroups : List UInt32) : Action σ BackendSet := do
  return Table.ofList (← r.loadRows hostgroups)

def monitorVariables : List (String × String) :=
  match r.monitor with
  | none => []
  | some c => [("mysql-monitor_username", c.username), ("mysql-monitor_password", c.password)]

def applyOne : Mutation → Action σ Unit
  | .register b => r.admin.register b
  | .deregister b => r.admin.deregister b
  | .setStatus b => r.admin.setStatus b b.status

def apply (ms : List Mutation) : Action σ Unit := do
  Action.each (fun v => r.admin.setVariable v.1 v.2) r.monitorVariables
  Action.each r.applyOne ms

/-- The writes and then a reload; a failed write wins over whatever the reload says. -/
def commit (ms : List Mutation) : Action σ Unit := fun s =>
  match r.apply ms s with
  | .ok _ s => r.admin.reload s
  | .error e s =>
    match r.admin.reload s with
    | .ok _ s => .error e s
    | .error _ s => .error e s

def reconcile (req : PassRequest) : Action σ Report := do
  let health ← r.survey req.seeds
  let current ← r.load [req.writerGroup, req.readerGroup]
  let ctx : PlanContext := ⟨req.writerGroup, req.readerGroup, health, req.blacklist⟩
  let planned := ctx.plan current
  let mutations := BackendSet.diff current planned.backends req.writerGroup
  r.commit mutations
  return ⟨planned.writer, mutations⟩

def status (hostgroup : UInt32) : Action σ (List Backend) := r.admin.backendsOrNone hostgroup

def ping : Action σ Unit := r.admin.ping

/-- An override also becomes the status of the row; clearing it leaves the status alone. -/
def overridden (status : Option Status) (b : Backend) : Backend :=
  (b.withStatus (status.getD b.status)).withOverride status

/-- Sets or clears the override on every row of the address, and says how many there are. -/
def setOverride (hostgroups : List UInt32) (addr : Addr) (status : Option Status) : Action σ Nat := do
  let rows := (← r.load hostgroups).rows.filter (·.addr = addr)
  Action.each r.admin.register (rows.map (overridden status))
  if rows.isEmpty then throw (.unregistered addr.text)
  r.admin.reload
  return rows.length

def setDesync (addr : Addr) (on : Bool) : Action σ Unit :=
  Action.mapError (·.ofAddr addr) (r.nodes.setDesync addr on)

end Reconciler

end SingleWriter
