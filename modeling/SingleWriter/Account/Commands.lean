import SingleWriter.AdminStore

/-!
# Account commands

Each command that changes the user table ends with a reload. A command on a username
that has no row fails and changes nothing. A modification removes the old rows before
it writes the changed ones, since a change may move a row to another key; where two
rows meet at one key the first is written.
-/

set_option autoImplicit false

namespace SingleWriter.Account

variable {σ : Type} (store : AdminStore σ)

def list : Action σ (List Account) := store.accounts none

def create (a : Account) : Action σ Unit := do
  store.putAccount a
  store.reloadAccounts

def existing (username : String) : Action σ (List Account) := do
  let rows ← store.accounts (some username)
  if rows.isEmpty then throw (.unknownUser username)
  return rows

def withPassword (password : String) (a : Account) : Account := { a with password }

def setPassword (username password : String) : Action σ Unit := do
  let rows ← existing store username
  Action.each store.putAccount (rows.map (withPassword password))
  store.reloadAccounts

def modify (username : String) (changes : Changes) : Action σ Unit := do
  let rows ← existing store username
  if changes.isEmpty then return ()
  let _ ← store.removeAccounts username
  Action.each store.putAccount (firstPerKey (rows.map changes.apply))
  store.reloadAccounts

def delete (username : String) : Action σ Unit := do
  let removed ← store.removeAccounts username
  if removed = 0 then throw (.unknownUser username)
  store.reloadAccounts

end SingleWriter.Account
