import SingleWriter.Account
import SingleWriter.Backend
import SingleWriter.Command.Arguments

/-!
# Commands

What an operator can ask for on the command line. Addresses and statuses are read as
everywhere else; a truth value is exactly `true` or `false`; a number may have a sign
and must fit into 32 bits without one.
-/

set_option autoImplicit false

namespace SingleWriter

inductive Command where
  | ping
  | register
  | status
  | setOverride (addr : Addr) (override : Option Status)
  | setDesync (addr : Addr) (on : Bool)
  | listAccounts
  | createAccount (username password : String) (changes : Account.Changes)
  | setPassword (username password : String)
  | modifyAccount (username : String) (changes : Account.Changes)
  | deleteAccount (username : String)
  deriving DecidableEq

namespace Command

def truth? : String → Option Bool
  | "true" => some true
  | "false" => some false
  | _ => none

def number? (s : String) : Option UInt32 :=
  match s.toList with
  | '-' :: cs => (Text.digitsValue? cs).bind fun n => if n = 0 then some 0 else none
  | cs => Text.word32? cs

/-- An option that may be left out, but not have a value that cannot be read. -/
def optional {α : Type} (read : String → Option α) (name : String) (a : Arguments) : Option (Option α) :=
  match a.options.lookup name with
  | none => some none
  | some value => (read value).map some

def columnNames : List String :=
  ["active", "use-ssl", "default-hostgroup", "default-schema", "schema-locked",
    "transaction-persistent", "fast-forward", "backend", "frontend", "max-connections"]

def changes? (a : Arguments) : Option Account.Changes := do
  return {
    active := ← optional truth? "active" a
    useSsl := ← optional truth? "use-ssl" a
    defaultHostgroup := ← optional number? "default-hostgroup" a
    defaultSchema := ← optional some "default-schema" a
    schemaLocked := ← optional truth? "schema-locked" a
    transactionPersistent := ← optional truth? "transaction-persistent" a
    fastForward := ← optional truth? "fast-forward" a
    backend := ← optional truth? "backend" a
    frontend := ← optional truth? "frontend" a
    maxConnections := ← optional number? "max-connections" a }

def theWord? (a : Arguments) : Option String :=
  match a.words with
  | [s] => some s
  | _ => none

/-- A command without any argument. -/
def bare (c : Command) (args : List String) : Option Command :=
  (Arguments.read [] args).bind fun a => if a.words.isEmpty then some c else none

def addr? (a : Arguments) : Option Addr := (theWord? a).bind fun s => (Addr.parse s).toOption

def ofServerArguments : List String → Option Command
  | "status" :: args => bare .status args
  | "set-admin-status" :: args => do
    let a ← Arguments.read ["status"] args
    return .setOverride (← addr? a) (← optional (fun s => (Status.parse s).toOption) "status" a)
  | "set-desync" :: args => do return .setDesync (← addr? (← Arguments.read [] args)) true
  | "set-sync" :: args => do return .setDesync (← addr? (← Arguments.read [] args)) false
  | _ => none

def ofAccountArguments : List String → Option Command
  | "list" :: args => bare .listAccounts args
  | "create" :: args => do
    let a ← Arguments.read ("password" :: columnNames) args
    return .createAccount (← theWord? a) ((a.options.lookup "password").getD "") (← changes? a)
  | "set-password" :: args => do
    let a ← Arguments.read ["password"] args
    return .setPassword (← theWord? a) (← a.options.lookup "password")
  | "modify" :: args => do
    let a ← Arguments.read columnNames args
    return .modifyAccount (← theWord? a) (← changes? a)
  | "delete" :: args => do return .deleteAccount (← theWord? (← Arguments.read [] args))
  | _ => none

def ofClusterArguments : List String → Option Command
  | "register" :: args => bare .register args
  | "server" :: args => ofServerArguments args
  | "user" :: args => ofAccountArguments args
  | _ => none

def ofArguments : List String → Option Command
  | "ping" :: args => bare .ping args
  | "galera" :: args => ofClusterArguments args
  | _ => none

end Command

/-- A command, and where its settings are. -/
structure Invocation where
  config : String
  debug : Bool
  command : Command
  deriving DecidableEq

namespace Invocation

def defaultConfig : String := "/etc/galera-router/galera-router.toml"

def ofArguments (args : List String) : Option Invocation := do
  let (p, rest) ← Command.Preamble.read {} args
  return ⟨p.config.getD defaultConfig, p.debug, ← Command.ofArguments rest⟩

end Invocation

end SingleWriter
