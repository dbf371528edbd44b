import SingleWriter.Account
import SingleWriter.Settings
import SingleWriter.Text.Escaped

/-!
# What may be shown of secrets

Accounts, credentials and settings can be shown to an operator. A password never is:
in its place stands a fixed mark, so that what is shown does not depend on it.
-/

set_option autoImplicit false

namespace SingleWriter

namespace Display

def redacted : String := "\"<redacted>\""

def field (f : String × String) : String := s!"{f.1}: {f.2}"

def record (name : String) (fields : List (String × String)) : String :=
  name ++ " \x7b " ++ ", ".intercalate (fields.map field) ++ " \x7d"

/-- A record of which some fields are left out. -/
def openRecord (name : String) (fields : List (String × String)) : String :=
  name ++ " \x7b " ++ ", ".intercalate (fields.map field) ++ ", .. \x7d"

def number (n : Nat) : String := Text.decimalText n

def truth (b : Bool) : String := if b then "true" else "false"

def optional {α : Type} (shown : α → String) : Option α → String
  | none => "None"
  | some a => s!"Some({shown a})"

end Display

open Display

def Account.display (a : Account) : String :=
  openRecord "RouterUser" [
    ("username", Text.escaped a.username),
    ("password", redacted),
    ("active", truth a.active),
    ("default_hostgroup", number a.defaultHostgroup.toNat),
    ("backend", truth a.backend),
    ("frontend", truth a.frontend)]

def Credentials.display (c : Credentials) : String :=
  record "Credentials" [("username", Text.escaped c.username), ("password", redacted)]

def AdminSettings.display (a : AdminSettings) : String :=
  record "ProxySqlConfig" [
    ("host", Text.escaped a.host),
    ("admin_port", number a.port.toNat),
    ("admin_username", Text.escaped a.username),
    ("admin_password", redacted),
    ("admin_socket", optional Text.escaped a.socket),
    ("monitor_username", optional Text.escaped a.monitorUsername),
    ("monitor_password", optional (fun _ => redacted) a.monitorPassword)]

def ClusterSettings.display (c : ClusterSettings) : String :=
  record "GaleraConfig" [
    ("cluster_host", Text.escaped c.hosts),
    ("cluster_username", Text.escaped c.username),
    ("cluster_password", redacted),
    ("load_balancing_mode", Text.escaped c.mode),
    ("writer_hostgroup_id", number c.writerGroup.toNat),
    ("reader_hostgroup_id", number c.readerGroup.toNat),
    ("writer_blacklist", optional Text.escaped c.blacklist)]

def TimeoutSettings.display (t : TimeoutSettings) : String :=
  record "TimeoutConfig" [
    ("node_connect_secs", number t.nodeSecs.toNat),
    ("admin_connect_secs", number t.adminSecs.toNat)]

def LogSettings.display (l : LogSettings) : String :=
  record "ObservabilityConfig" [
    ("log_level", Text.escaped l.level),
    ("log_format", Text.escaped l.format)]

def Settings.display (s : Settings) : String :=
  record "RouterConfig" [
    ("proxysql", s.admin.display),
    ("galera", s.cluster.display),
    ("timeouts", s.timeouts.display),
    ("observability", s.log.display)]

end SingleWriter
