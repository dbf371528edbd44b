import SingleWriter.Action
import SingleWriter.Account
import SingleWriter.BackendSet

/-!
# The admin store

What the router's configuration store can do, over whatever state it lives in.
Listing backends fails when nothing matches; `backendsOrNone` turns that failure
into an empty list.
-/

set_option autoImplicit false

namespace SingleWriter

structure AdminStore (σ : Type) where
  ping : Action σ Unit
  /-- Backends of a hostgroup and in a status, where these are given. -/
  backends : Option UInt32 → Option Status → Action σ (List Backend)
  register : Backend → Action σ Unit
  deregister : Backend → Action σ Unit
  setStatus : Backend → Status → Action σ Unit
  setVariable (name value : String) : Action σ Unit
  reload : Action σ Unit
  accounts (username : Option String) : Action σ (List Account)
  putAccount : Account → Action σ Unit
  /-- Removes every row of a username and says how many there were. -/
  removeAccounts (username : String) : Action σ Nat
  reloadAccounts : Action σ Unit

namespace AdminStore

variable {σ τ : Type}

def within (part : τ → σ) (replace : σ → τ → τ) (store : AdminStore σ) : AdminStore τ where
  ping := Action.within part replace store.ping
  backends hostgroup status := Action.within part replace (store.backends hostgroup status)
  register b := Action.within part replace (store.register b)
  deregister b := Action.within part replace (store.deregister b)
  setStatus b status := Action.within part replace (store.setStatus b status)
  setVariable name value := Action.within part replace (store.setVariable name value)
  reload := Action.within part replace store.reload
  accounts username := Action.within part replace (store.accounts username)
  putAccount a := Action.within part replace (store.putAccount a)
  removeAccounts username := Action.within part replace (store.removeAccounts username)
  reloadAccounts := Action.within part replace store.reloadAccounts

def backendsOrNone (store : AdminStore σ) (hostgroup : UInt32) : Action σ (List Backend) := fun s =>
  match store.backends (some hostgroup) none s with
  | .ok rows s => .ok rows s
  | .error (.noBackends _) s => .ok [] s
  | .error e s => .error e s

end AdminStore

end SingleWriter
