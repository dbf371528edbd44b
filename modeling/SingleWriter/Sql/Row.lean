import SingleWriter.Account
import SingleWriter.Backend.Comment

/-!
# Rows of a result

A row maps column names to cells, each a text or absent. Columns are found in any
letter case. A number is read between blanks and has to fit its column; a flag is a
byte that is not zero. The first column that is missing or cannot be read is the
fault of the row.
-/

set_option autoImplicit false

namespace SingleWriter.Sql

abbrev Row := List (String × Option String)

namespace Row

inductive Fault where
  | missing (column : String)
  | invalid (column text : String)
  | status (e : Status.Unknown)
  deriving DecidableEq

def Fault.message : Fault → String
  | .missing column => s!"missing column {column}"
  | .invalid column text => s!"column {column} has invalid value '{text}'"
  | .status e => e.message

/-- A later cell of the same name replaces the earlier one. -/
def put (r : Row) (name : String) (cell : Option String) : Row :=
  if r.any (·.1 = name) then r.map fun c => if c.1 = name then (name, cell) else c
  else r ++ [(name, cell)]

def ofCells (cells : List (String × Option String)) : Row :=
  cells.foldl (fun r c => r.put c.1 c.2) []

/-- The text in a column; a column that is absent and an empty cell are alike. -/
def column? (r : Row) (name : String) : Option String :=
  (r.find? fun c => Text.sameUpToCase c.1 name).bind Prod.snd

def text (r : Row) (name : String) : Except Fault String :=
  match r.column? name with
  | some s => .ok s
  | none => .error (.missing name)

def number {α : Type} (read : List Char → Option α) (r : Row) (name : String) : Except Fault α := do
  let s ← r.text name
  match read (Text.trim s.toList) with
  | some a => .ok a
  | none => .error (.invalid name s)

def word32 (r : Row) (name : String) : Except Fault UInt32 := number Text.word32? r name

def flag (r : Row) (name : String) : Except Fault Bool := do
  return (← number Text.byte? r name) ≠ 0

def statusText (s : String) : Except Fault Status :=
  match Status.parse s with
  | .ok status => .ok status
  | .error e => .error (.status e)

def toBackend (r : Row) : Except Fault Backend := do
  let host ← r.text "hostname"
  let status ← statusText (← r.text "status")
  let hostgroup ← r.word32 "hostgroup_id"
  let port ← number Text.word16? r "port"
  let weight ← r.word32 "weight"
  let compression ← r.word32 "compression"
  let maxConnections ← r.word32 "max_connections"
  let maxReplicationLag ← r.word32 "max_replication_lag"
  let useSsl ← r.flag "use_ssl"
  let maxLatencyMs ← r.word32 "max_latency_ms"
  return {
    hostgroup, status, weight, compression, maxConnections, maxReplicationLag, useSsl, maxLatencyMs
    addr := ⟨host, port⟩
    annotation := Annotation.ofComment (r.column? "comment") }

def toAccount (r : Row) : Except Fault Account := do
  let username ← r.text "username"
  let active ← r.flag "active"
  let useSsl ← r.flag "use_ssl"
  let defaultHostgroup ← r.word32 "default_hostgroup"
  let schemaLocked ← r.flag "schema_locked"
  let transactionPersistent ← r.flag "transaction_persistent"
  let fastForward ← r.flag "fast_forward"
  let backend ← r.flag "backend"
  let frontend ← r.flag "frontend"
  let maxConnections ← r.word32 "max_connections"
  return {
    username, active, useSsl, defaultHostgroup, schemaLocked, transactionPersistent, fastForward
    backend, frontend, maxConnections
    password := (r.column? "password").getD ""
    defaultSchema := r.column? "default_schema" }

/-- A row with a column `n` that counts something; anything unreadable counts nothing. -/
def count (rows : List Row) : Nat :=
  match rows with
  | [] => 0
  | r :: _ => ((r.column? "n").bind fun s => Text.numeral? UInt64.size s.toList).getD 0

end Row

end SingleWriter.Sql
