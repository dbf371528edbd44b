import SingleWriter.Addr

/-!
# Failures

A session with a server fails by running out of time, by not connecting, or on a
statement. Reading one node fails in the same ways, or because what the node
reports cannot be understood. Everything that ends a pass or an operator command is
a `PassError`. A cause keeps what its message needs.
-/

set_option autoImplicit false

namespace SingleWriter

inductive NodeError where
  | timeout (secs : Nat)
  | connect (reason : String)
  | query (reason : String)
  | malformed (what : String)
  deriving DecidableEq

def NodeError.message : NodeError → String
  | .timeout secs => s!"connect timeout after {Text.decimalText secs} seconds"
  | .connect reason => s!"connection failed: {reason}"
  | .query reason => s!"query failed: {reason}"
  | .malformed what => s!"unexpected status: {what}"

inductive PassError where
  | nonPrimary (node : String)
  | unknownState (node reason : String)
  | clusterUnavailable
  | noBackends (hostgroup : UInt32)
  | adminFailed (reason : String)
  | unregistered (backend : String)
  | unknownUser (username : String)
  deriving DecidableEq

def PassError.message : PassError → String
  | .nonPrimary node => s!"Node {node} is not in the primary component"
  | .unknownState node reason => s!"Node {node} is in unknown state: {reason}"
  | .clusterUnavailable => "No node found in SYNCED or DONOR_DESYNCED state"
  | .noBackends hostgroup =>
    s!"No backends found in hostgroup {Text.decimalText hostgroup.toNat}"
  | .adminFailed reason => s!"ProxySQL admin connection failed: {reason}"
  | .unregistered backend => s!"Backend {backend} is not registered"
  | .unknownUser username => s!"User {username} not found"

/-- A node that could not be read is in an unknown state. -/
def NodeError.ofAddr (e : NodeError) (addr : Addr) : PassError :=
  .unknownState addr.text e.message

inductive SessionError where
  | timeout (secs : Nat)
  | connect (endpoint reason : String)
  | statement (reason : String)
  deriving DecidableEq

namespace SessionError

def message : SessionError → String
  | .timeout secs => s!"timeout after {Text.decimalText secs} seconds"
  | .connect endpoint reason => s!"cannot connect to {endpoint}: {reason}"
  | .statement reason => s!"statement failed: {reason}"

/-- Towards the admin interface every session failure is a failed connection. -/
def toPassError (e : SessionError) : PassError := .adminFailed e.message

def toNodeError : SessionError → NodeError
  | .timeout secs => .timeout secs
  | .connect _ reason => .connect reason
  | .statement reason => .query reason

end SessionError

end SingleWriter
