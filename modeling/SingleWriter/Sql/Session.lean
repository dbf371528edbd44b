import SingleWriter.Sql.Network
import SingleWriter.Action

/-!
# Sessions

A client knows an endpoint, the credentials and how long it waits for a connection
or an answer. A session is used in one place only: `Client.session` opens it, runs
the body, and closes it whether the body succeeded or not.
-/

set_option autoImplicit false

namespace SingleWriter.Sql

structure Client where
  endpoint : Endpoint
  credentials : Credentials
  /-- Patience in milliseconds. -/
  patience : Nat

namespace Client

variable (c : Client)

def timedOut : SessionError := .timeout (c.patience / 1000)

def connect : EStateM SessionError Network Unit := fun n =>
  match n.servers.get? c.endpoint with
  | none => .error (.connect c.endpoint.text (n.absence c.endpoint)) n
  | some server =>
    match server.script.login with
    | .accept => .ok () (n.note (.opened server.name c.credentials.username))
    | .refuse e =>
      .error (.connect c.endpoint.text e.text) (n.note (.refused server.name c.credentials.username))
    | .stall => .error c.timedOut (n.note (.ignored server.name))

def close (n : Network) : Network := n.note .closed

/-- Sends one statement; a stalled or failed answer is an error. -/
def send (statement : String) : EStateM SessionError Network Reply := fun n =>
  match n.servers.get? c.endpoint with
  | none => .error (.statement (n.absence c.endpoint)) n
  | some server =>
    let (reply, rules) := answer statement server.script.rules
    let n := (n.note (.sent statement)).withScript c.endpoint { server.script with rules }
    match reply with
    | .stall => .error c.timedOut n
    | .failure e => .error (.statement e.text) n
    | reply => .ok reply n

def utf8Text : Text.Utf8.Fault → String
  | .invalid length index =>
    s!"invalid utf-8 sequence of {Text.decimalText length} bytes from index {Text.decimalText index}"
  | .incomplete index => s!"incomplete utf-8 byte sequence from index {Text.decimalText index}"

def cellText (place : Nat) : Cell → Except SessionError (Option String)
  | .text s => .ok (some s)
  | .null => .ok none
  | .bytes bs =>
    match Text.Utf8.decode bs with
    | .ok s => .ok (some s)
    | .error fault =>
      .error (.statement
        s!"error occurred while decoding column {Text.decimalText place}: {utf8Text fault}")

def cellTexts (place : Nat) : List Cell → Except SessionError (List (Option String))
  | [] => .ok []
  | c :: cs => do
    let t ← cellText place c
    return t :: (← cellTexts (place + 1) cs)

def readRow (columns : List String) (cells : List Cell) : Except SessionError Row := do
  return Row.ofCells (columns.zip (← cellTexts 0 cells))

def rowsOf : Reply → Except SessionError (List Row)
  | .rows columns rows => rows.mapM (readRow columns)
  | _ => .ok []

def affectedBy : Reply → Nat
  | .affected n => n
  | _ => 0

def query (statement : String) : EStateM SessionError Network (List Row) := do
  match rowsOf (← c.send statement) with
  | .ok rows => return rows
  | .error e => throw e

def execute (statement : String) : EStateM SessionError Network Nat := do
  return affectedBy (← c.send statement)

/-- Executes statements in order up to the first failure, and adds up the affected rows. -/
def executeAll : List String → EStateM SessionError Network Nat
  | [] => return 0
  | statement :: rest => do
    let n ← c.execute statement
    return n + (← executeAll rest)

def session {ε α : Type} (explain : SessionError → ε) (body : EStateM ε Network α) :
    EStateM ε Network α := fun n =>
  match c.connect n with
  | .error e n => .error (explain e) n
  | .ok _ n =>
    match body n with
    | .ok a n => .ok a (close n)
    | .error e n => .error e (close n)

end Client

end SingleWriter.Sql
