import SingleWriter.Endpoint
import SingleWriter.Sql.Row
import SingleWriter.Table
import SingleWriter.Text.Utf8

/-!
# Servers that answer statements

A network has a server at some of its endpoints. A server follows a script: it
accepts, refuses or ignores a login, and answers a statement by the first rule whose
pattern occurs in the statement and which has not been used up; without such a rule
it reports no affected rows. Cells that were sent as bytes may turn out not to be
text. The network keeps a log of what happened at its servers.
-/

set_option autoImplicit false

namespace SingleWriter.Sql

structure ServerError where
  code : Nat
  state : String
  message : String
  deriving DecidableEq

def ServerError.text (e : ServerError) : String :=
  s!"error returned from database: {Text.decimalText e.code} ({e.state}): {e.message}"

inductive Cell where
  | text (s : String)
  | null
  | bytes (bs : List UInt8)

inductive Reply where
  | rows (columns : List String) (rows : List (List Cell))
  | affected (n : Nat)
  | failure (e : ServerError)
  /-- No answer ever comes. -/
  | stall

structure Rule where
  pattern : String
  reply : Reply
  /-- How often the rule may still be used; `none` is no limit. -/
  uses : Option Nat := none

def Rule.answers (statement : String) (r : Rule) : Bool :=
  r.uses ≠ some 0 && Text.occursIn r.pattern.toList statement.toList

def Rule.used (r : Rule) : Rule := { r with uses := r.uses.map (· - 1) }

inductive Login where
  | accept
  | refuse (e : ServerError)
  | stall

structure Script where
  login : Login := .accept
  rules : List Rule := []

/-- The answer to a statement, and the rules with the use counted. -/
def answer (statement : String) : List Rule → Reply × List Rule
  | [] => (.affected 0, [])
  | r :: rs =>
    if r.answers statement then (r.reply, r.used :: rs)
    else
      let (reply, rs) := answer statement rs
      (reply, r :: rs)

structure Server where
  endpoint : Endpoint
  name : String
  script : Script

inductive Event where
  | opened (server username : String)
  | refused (server username : String)
  | ignored (server : String)
  | sent (statement : String)
  | closed
  deriving DecidableEq

structure Network where
  servers : Table Server.endpoint
  /-- Why an endpoint without a server cannot be reached. -/
  absence : Endpoint → String
  log : List Event := []

namespace Network

/-- A machine that has no network, so that only local sockets have servers. -/
def offline (servers : List Server) : Network where
  servers := Table.ofList servers
  absence
    | .network _ => "error communicating with database: Network is unreachable (os error 101)"
    | .socket _ => "error communicating with database: No such file or directory (os error 2)"

def note (e : Event) (n : Network) : Network := { n with log := n.log ++ [e] }

def withScript (endpoint : Endpoint) (script : Script) (n : Network) : Network :=
  { n with servers := n.servers.change endpoint fun s => { s with script } }

/-- Replaces the script of every server of this name. -/
def rescript (name : String) (script : Script) (n : Network) : Network :=
  { n with
    servers := n.servers.mapRows (fun s => if s.name = name then { s with script } else s)
      (by intro s; split <;> rfl) }

end Network

/-- A visit to a server, as its log shows it. -/
structure Visit where
  server : String
  username : Option String
  statements : List String := []
  deriving DecidableEq

/-- Adds an event to the visits, the latest first. -/
def Event.addTo (visits : List Visit) : Event → List Visit
  | .opened server username => ⟨server, some username, []⟩ :: visits
  | .refused server username => ⟨server, some username, []⟩ :: visits
  | .ignored server => ⟨server, none, []⟩ :: visits
  | .closed => visits
  | .sent statement =>
    match visits with
    | [] => []
    | v :: vs => { v with statements := v.statements ++ [statement] } :: vs

def visits (log : List Event) : List Visit := (log.foldl Event.addTo []).reverse

end SingleWriter.Sql
