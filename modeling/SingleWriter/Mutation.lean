import SingleWriter.BackendSet

/-!
# Mutations

The writes that turn one set of rows into another. Every planned row is compared
with the row that has its key: a row that is new is registered unless it would be
removed at once, a row that only changes its status is set or deregistered, and a
row that has to come online is taken out first when it is in service.

Rows leave or change status before any row is registered, and in either phase the
writer hostgroup comes first.
-/

set_option autoImplicit false

namespace SingleWriter

inductive Mutation where
  | register (backend : Backend)
  | deregister (backend : Backend)
  | setStatus (backend : Backend)
  deriving DecidableEq

namespace Mutation

def backend : Mutation → Backend
  | .register b => b
  | .deregister b => b
  | .setStatus b => b

def action : Mutation → String
  | .register _ => "register"
  | .deregister _ => "deregister"
  | .setStatus _ => "set_status"

def text : Mutation → String
  | .register b => s!"register {b} {b.status}"
  | .deregister b => s!"deregister {b}"
  | .setStatus b => s!"set {b} {b.status}"

def isRegister : Mutation → Bool
  | .register _ => true
  | _ => false

end Mutation

namespace BackendSet

/-- The writes for one planned row, given the row that now has its key. -/
def writesFor (target : Backend) : Option Backend → List Mutation
  | none => if target.isRemoved then [] else [.register target]
  | some old =>
    if old = target then []
    else if old.status = target.status ∨ (old.annotation ≠ target.annotation ∧ target.status ≠ .online) then
      [.register target]
    else match target.status with
      | .offlineHard => [.deregister target]
      | .offlineSoft => [.setStatus target]
      | .shunned => [.setStatus target]
      | .online => if old.isRemoved then [.register target] else [.deregister old, .register target]

def hostgroupFirst (hostgroup : UInt32) (ms : List Mutation) : List Mutation :=
  ms.filter (·.backend.hostgroup = hostgroup) ++ ms.filter (·.backend.hostgroup ≠ hostgroup)

def inPhases (writerGroup : UInt32) (ms : List Mutation) : List Mutation :=
  hostgroupFirst writerGroup (ms.filter (!·.isRegister)) ++
    hostgroupFirst writerGroup (ms.filter (·.isRegister))

def diff (current planned : BackendSet) (writerGroup : UInt32) : List Mutation :=
  inPhases writerGroup (planned.rows.flatMap fun target => writesFor target (current.get? target.key))

end BackendSet

end SingleWriter
