import SingleWriter.AdminStore

/-!
# The admin store in memory

The server table, the variables and the user table of a router, with a journal of
every call that was accepted. The store can be down, in which case it refuses every
call, and it can be given a number of table writes after which it fails each further
one. A row taken out of service stays in the table as `OFFLINE_HARD`.
-/

set_option autoImplicit false

namespace SingleWriter

inductive Store.Call where
  | register (key : Backend.Key) (status : Status)
  | deregister (key : Backend.Key)
  | setStatus (key : Backend.Key) (status : Status)
  | setVariable (name : String)
  | reload
  | putAccount (username : String)
  | removeAccounts (username : String)
  | reloadAccounts
  deriving DecidableEq

/-- The call changes the server table. -/
def Store.Call.isWrite : Store.Call → Bool
  | .register _ _ => true
  | .deregister _ => true
  | .setStatus _ _ => true
  | _ => false

structure Store where
  backends : BackendSet := Table.empty
  globals : List (String × String) := []
  accounts : Accounts := Table.empty
  journal : List Store.Call := []
  isDown : Bool := false
  /-- Table writes that will still be accepted; `none` is no limit. -/
  writesLeft : Option Nat := none

namespace Store

def writes (s : Store) : Nat := s.journal.countP Call.isWrite

def reloads (s : Store) : Nat := s.journal.count .reload

def valueOf? (s : Store) (name : String) : Option String :=
  (s.globals.find? (·.1 = name)).map Prod.snd

def insert (b : Backend) (s : Store) : Store := { s with backends := s.backends.insert b }

def record (call : Call) (s : Store) : Store := { s with journal := s.journal ++ [call] }

def reachable : Action Store Unit := fun s =>
  if s.isDown then .error (.adminFailed "connection refused by admin interface") s else .ok () s

def acceptWrite : Action Store Unit := fun s =>
  if s.isDown then .error (.adminFailed "connection refused by admin interface") s
  else match s.writesLeft with
    | none => .ok () s
    | some 0 => .error (.adminFailed "lost connection during statement") s
    | some (n + 1) => .ok () { s with writesLeft := some n }

def note (call : Call) : Action Store Unit := fun s => .ok () (s.record call)

/-- The rows in the order of their keys. -/
def sorted (rows : List Backend) : List Backend :=
  rows.mergeSort fun a b => (compare a.key b.key).isLE

def isListed (hostgroup : Option UInt32) (status : Option Status) (b : Backend) : Bool :=
  hostgroup.all (b.hostgroup = ·) && status.all (b.status = ·)

def listBackends (hostgroup : Option UInt32) (status : Option Status) : Action Store (List Backend) := do
  reachable
  let s ← get
  match sorted (s.backends.rows.filter (isListed hostgroup status)) with
  | [] => throw (.noBackends (hostgroup.getD 0))
  | rows => return rows

def register (b : Backend) : Action Store Unit := do
  acceptWrite
  modify (insert b)
  note (.register b.key b.status)

def deregister (b : Backend) : Action Store Unit := do
  acceptWrite
  modify fun s => { s with backends := s.backends.setStatus b.key .offlineHard }
  note (.deregister b.key)

def setStatus (b : Backend) (status : Status) : Action Store Unit := do
  acceptWrite
  let s ← get
  if s.backends.contains b.key then
    set { s with backends := s.backends.setStatus b.key status }
    note (.setStatus b.key status)
  else throw (.unregistered b.text)

def setVariable (name value : String) : Action Store Unit := do
  reachable
  modify fun s => { s with globals := (name, value) :: s.globals.filter (·.1 ≠ name) }
  note (.setVariable name)

def reload : Action Store Unit := do
  reachable
  note .reload

def sortedAccounts (rows : List Account) : List Account :=
  rows.mergeSort fun a b => (compare a.key b.key).isLE

def listAccounts (username : Option String) : Action Store (List Account) := do
  reachable
  let s ← get
  return sortedAccounts (s.accounts.rows.filter fun a => username.all (a.username = ·))

def putAccount (a : Account) : Action Store Unit := do
  reachable
  modify fun s => { s with accounts := s.accounts.insert a }
  note (.putAccount a.username)

def removeAccounts (username : String) : Action Store Nat := do
  reachable
  let s ← get
  set { s with accounts := s.accounts.filter (·.username ≠ username) }
  note (.removeAccounts username)
  return s.accounts.rows.countP (·.username = username)

def reloadAccounts : Action Store Unit := do
  reachable
  note .reloadAccounts

def admin : AdminStore Store where
  ping := reachable
  backends := listBackends
  register := register
  deregister := deregister
  setStatus := setStatus
  setVariable := setVariable
  reload := reload
  accounts := listAccounts
  putAccount := putAccount
  removeAccounts := removeAccounts
  reloadAccounts := reloadAccounts

end Store

end SingleWriter
