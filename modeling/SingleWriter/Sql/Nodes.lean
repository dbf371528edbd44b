import SingleWriter.NodeAccess
import SingleWriter.Sql.Session

/-!
# Nodes behind their own interface

A node is read in one session: its status variables, then three global variables.
An old server that does not know all three fails that statement and is asked for the
cluster name alone; a statement that runs out of time is not repeated. Global values
replace status values of the same name.
-/

set_option autoImplicit false

namespace SingleWriter.Sql.Nodes

def statusQuery : String := "SHOW GLOBAL STATUS LIKE 'wsrep%'"

def globalsQuery : String :=
  "SELECT @@global.wsrep_cluster_name AS wsrep_cluster_name, @@global.wsrep_reject_queries AS wsrep_reject_queries, @@global.wsrep_sst_donor_rejects_queries AS wsrep_sst_donor_rejects_queries"

def nameQuery : String := "SELECT @@global.wsrep_cluster_name AS wsrep_cluster_name"

def peersQuery : String := "SHOW GLOBAL STATUS LIKE 'wsrep_incoming_addresses'"

def desyncStatement (on : Bool) : String :=
  if on then "SET GLOBAL wsrep_desync = ON" else "SET GLOBAL wsrep_desync = OFF"

/-- A later value of the same name replaces the earlier one. -/
def put (vs : Variables) (name value : String) : Variables :=
  (Text.lowered name, value) :: vs.filter (·.1 ≠ Text.lowered name)

/-- A row without a name says nothing; a row without a value says the empty value. -/
def addStatus (vs : Variables) (r : Row) : Variables :=
  match r.column? "variable_name" with
  | some name => put vs name ((r.column? "value").getD "")
  | none => vs

def statusVariables (rows : List Row) : Variables := rows.foldl addStatus []

def addGlobal (vs : Variables) (cell : String × Option String) : Variables :=
  match cell.2 with
  | some value => put vs cell.1 value
  | none => vs

def addGlobals (vs : Variables) : List Row → Variables
  | [] => vs
  | r :: _ => r.foldl addGlobal vs

variable (credentials : Credentials) (patience : Nat)

def client (addr : Addr) : Client := ⟨.network addr, credentials, patience⟩

def inSession {α : Type} (addr : Addr) (body : Client → EStateM SessionError Network α) :
    EStateM NodeError Network α :=
  let c := client credentials patience addr
  c.session SessionError.toNodeError (Action.mapError SessionError.toNodeError (body c))

def globals (c : Client) : EStateM SessionError Network (List Row) := fun n =>
  match c.query globalsQuery n with
  | .ok rows n => .ok rows n
  | .error (.statement _) n => c.query nameQuery n
  | .error e n => .error e n

def readVariables (c : Client) : EStateM SessionError Network Variables := do
  let status ← c.query statusQuery
  return addGlobals (statusVariables status) (← globals c)

def orThrow {ε σ α : Type} : Except ε α → EStateM ε σ α
  | .ok a => return a
  | .error e => throw e

def fetch (addr : Addr) : EStateM NodeError Network Node := do
  orThrow (Node.ofVariables addr (← inSession credentials patience addr readVariables))

def peers (addr : Addr) : EStateM NodeError Network (List Addr) := do
  let rows ← inSession credentials patience addr fun c => c.query peersQuery
  match (statusVariables rows).get? Variables.incomingAddresses with
  | some list =>
    if Text.isBlankText list then
      throw (.malformed s!"unknown status variable {Variables.incomingAddresses}")
    return Addr.parseListLenient list
  | none => throw (.malformed s!"unknown status variable {Variables.incomingAddresses}")

def setDesync (addr : Addr) (on : Bool) : EStateM NodeError Network Unit := do
  let _ ← inSession credentials patience addr fun c => c.execute (desyncStatement on)

def access : NodeAccess Network where
  fetch := fetch credentials patience
  peers := peers credentials patience
  setDesync := setDesync credentials patience

end SingleWriter.Sql.Nodes
