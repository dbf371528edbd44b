import SingleWriter.Reconciler

/-!
# Settings

What the program is told about the router's admin interface, the cluster and its two
hostgroups, how long to wait for either, and how to log. Every setting has a default
except for the hosts of the cluster, whose default is no host at all.

A pass is asked for with the seeds and the blacklist that the settings name; an item
there that is no address is skipped.
-/

set_option autoImplicit false

namespace SingleWriter

structure AdminSettings where
  host : String := "127.0.0.1"
  port : UInt16 := 6032
  username : String := "admin"
  password : String := "admin"
  /-- A local socket is preferred to host and port. -/
  socket : Option String := none
  monitorUsername : Option String := none
  monitorPassword : Option String := none
  deriving DecidableEq

namespace AdminSettings

def endpoint (a : AdminSettings) : Endpoint :=
  match a.socket with
  | some path => .socket path
  | none => .network ⟨a.host, a.port⟩

def credentials (a : AdminSettings) : Credentials := ⟨a.username, a.password⟩

/-- Without a monitor username there are no monitor credentials, whatever the password. -/
def monitorCredentials (a : AdminSettings) : Option Credentials :=
  a.monitorUsername.map fun username => ⟨username, a.monitorPassword.getD ""⟩

end AdminSettings

structure ClusterSettings where
  hosts : String := ""
  username : String := "root"
  password : String := ""
  mode : String := "singlewriter"
  writerGroup : UInt32 := 10
  readerGroup : UInt32 := 11
  blacklist : Option String := none
  deriving DecidableEq

def ClusterSettings.credentials (c : ClusterSettings) : Credentials := ⟨c.username, c.password⟩

structure TimeoutSettings where
  nodeSecs : UInt64 := 5
  adminSecs : UInt64 := 20
  deriving DecidableEq

structure LogSettings where
  level : String := "info"
  format : String := "pretty"
  deriving DecidableEq

structure Settings where
  admin : AdminSettings := {}
  cluster : ClusterSettings := {}
  timeouts : TimeoutSettings := {}
  log : LogSettings := {}
  deriving DecidableEq

namespace Settings

def seeds (s : Settings) : List Addr := Addr.parseListLenient s.cluster.hosts

def blacklist (s : Settings) : Blacklist := (s.cluster.blacklist.map Blacklist.parse).getD {}

def request (s : Settings) : PassRequest where
  writerGroup := s.cluster.writerGroup
  readerGroup := s.cluster.readerGroup
  seeds := s.seeds
  blacklist := s.blacklist

end Settings

end SingleWriter
