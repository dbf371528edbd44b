import SingleWriter.Command.Run
import SingleWriter.Settings.File
import SingleWriter.Sql.Admin
import SingleWriter.Sql.Nodes

/-!
# The program

One run of the program on a network: it reads its arguments, loads its settings, and
runs its command with clients for the router's admin interface and for the nodes. It
ends with 0 on success, 1 when the settings or the command failed, and 2 when the
arguments cannot be read. Only a successful run has output.
-/

set_option autoImplicit false

namespace SingleWriter

structure Outcome where
  exitCode : UInt8
  output : String := ""
  complaint : String := ""

namespace Program

def seconds (n : UInt64) : Nat := 1000 * n.toNat

def adminClient (s : Settings) : Sql.Client :=
  ⟨s.admin.endpoint, s.admin.credentials, seconds s.timeouts.adminSecs⟩

def reconciler (s : Settings) : Reconciler Sql.Network where
  nodes := Sql.Nodes.access s.cluster.credentials (seconds s.timeouts.nodeSecs)
  admin := Sql.Admin.store (adminClient s)
  monitor := s.admin.monitorCredentials

def usage : Outcome := { exitCode := 2, complaint := "The arguments cannot be read." }

/-- Runs an invocation, given the content of its settings file. -/
def invoke (i : Invocation) (file : Option (List UInt8)) (n : Sql.Network) : Outcome × Sql.Network :=
  match Settings.load file with
  | .error e => ({ exitCode := 1, complaint := e.message }, n)
  | .ok settings =>
    match i.command.run (reconciler settings) settings n with
    | .ok output n => ({ exitCode := 0, output }, n)
    | .error e n => ({ exitCode := 1, complaint := e.message }, n)

end Program

end SingleWriter
