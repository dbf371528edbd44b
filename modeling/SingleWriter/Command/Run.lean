import SingleWriter.Account.Commands
import SingleWriter.Command
import SingleWriter.Json.Printer
import SingleWriter.Records
import SingleWriter.Settings

/-!
# Running commands

A command runs on a reconciler with the hostgroups of the settings, and says what it
has to say in lines of pretty JSON. Commands that only change something say nothing.
-/

set_option autoImplicit false

namespace SingleWriter.Command

variable {σ : Type}

def said (v : Json) : String := v.prettyText ++ "\n"

/-- A new account has the default columns, changed as asked for. -/
def newAccount (username password : String) (changes : Account.Changes) : Account :=
  changes.apply { username, password }

def run (r : Reconciler σ) (settings : Settings) : Command → Action σ String
  | .ping => do
    r.ping
    return ""
  | .register => do
    return said (← r.reconcile settings.request).toJson
  | .status => do
    let writers ← r.status settings.cluster.writerGroup
    let readers ← r.status settings.cluster.readerGroup
    return said (overview settings.cluster.writerGroup settings.cluster.readerGroup writers readers)
  | .setOverride addr override => do
    let _ ← r.setOverride [settings.cluster.writerGroup, settings.cluster.readerGroup] addr override
    return ""
  | .setDesync addr on => do
    r.setDesync addr on
    return ""
  | .listAccounts => do
    return said (.array ((← Account.list r.admin).map Account.toJson))
  | .createAccount username password changes => do
    Account.create r.admin (newAccount username password changes)
    return ""
  | .setPassword username password => do
    Account.setPassword r.admin username password
    return ""
  | .modifyAccount username changes => do
    Account.modify r.admin username changes
    return ""
  | .deleteAccount username => do
    Account.delete r.admin username
    return ""

end SingleWriter.Command
