import SingleWriter.AdminStore
import SingleWriter.Sql.Session
import SingleWriter.Sql.Statement

/-!
# The admin store behind the admin interface

Every operation is one session. A failure of the session, and a row that cannot be
read, is a failure of the admin interface.
-/

set_option autoImplicit false

namespace SingleWriter.Sql.Admin

variable (c : Client)

def inSession {α : Type} (body : EStateM SessionError Network α) : Action Network α :=
  c.session SessionError.toPassError (Action.mapError SessionError.toPassError body)

def run (statements : List Statement) : Action Network Nat :=
  inSession c (c.executeAll (statements.map Statement.text))

def runOne (statement : Statement) : Action Network Unit := do
  let _ ← run c [statement]

def select (statement : Statement) : Action Network (List Row) :=
  inSession c (c.query statement.text)

def readRows {α : Type} (read : Row → Except Row.Fault α) (rows : List Row) : Action Network (List α) :=
  match rows.mapM read with
  | .ok as => return as
  | .error fault => throw (.adminFailed fault.message)

def ping : Action Network Unit := do
  let _ ← select c (plainText "SELECT 1")

def backends (hostgroup : Option UInt32) (status : Option Status) : Action Network (List Backend) := do
  match ← readRows Row.toBackend (← select c (selectServers hostgroup status)) with
  | [] => throw (.noBackends (hostgroup.getD 0))
  | rows => return rows

/-- Looks for the row first and leaves a row that is not there alone. -/
def setStatus (b : Backend) (status : Status) : Action Network Unit :=
  c.session SessionError.toPassError do
    let rows ← Action.mapError SessionError.toPassError (c.query (countServers b).text)
    if Row.count rows = 0 then throw (.unregistered b.text)
    let _ ← Action.mapError SessionError.toPassError (c.execute (updateStatus b status).text)

def accounts (username : Option String) : Action Network (List Account) := do
  readRows Row.toAccount (← select c (selectUsers username))

def store : AdminStore Network where
  ping := ping c
  backends := backends c
  register b := runOne c (replaceServer b)
  deregister b := runOne c (updateStatus b .offlineHard)
  setStatus := setStatus c
  setVariable name value := runOne c (updateVariable name value)
  reload := do let _ ← run c reloadServers
  accounts := accounts c
  putAccount a := runOne c (replaceUser a)
  removeAccounts username := run c [deleteUsers username]
  reloadAccounts := do let _ ← run c reloadUsers

end SingleWriter.Sql.Admin
