import SingleWriter.Json
import SingleWriter.Settings
import SingleWriter.Toml

/-!
# Settings from a document

Settings are read from a TOML or a JSON document in the same way. The document and
each of its sections are tables with the settings by name; what is not named keeps
its default, and other names are ignored. An array in the place of a table gives the
settings by position, with the rest left out; in JSON it must not be too long. A TOML
moment in the place of a table names nothing.

A number has to be an integer within the range of its setting. In JSON an optional
setting may be null.
-/

set_option autoImplicit false

namespace SingleWriter

class SettingSource (α : Type) where
  /-- Looks settings up by name, unless the value cannot be a section with these names. -/
  table? : List String → α → Option (String → Option α)
  text? : α → Option String
  natural? : α → Option Nat
  isNull : α → Bool

namespace SettingSource

def byPosition {α : Type} (names : List String) (items : List α) (name : String) : Option α :=
  items[names.idxOf name]?

end SettingSource

instance : SettingSource Json where
  table? names
    | .array items =>
      if items.length ≤ names.length then some (SettingSource.byPosition names items) else none
    | .object members => some fun name => Json.member? name (.object members)
    | _ => none
  text? := Json.text?
  natural? := Json.natural?
  isNull
    | .null => true
    | _ => false

instance : SettingSource Toml where
  table? names
    | .table _ members => some fun name => members.lookup name
    | .array items => some (SettingSource.byPosition names items)
    | .tables elements => some (SettingSource.byPosition names (elements.map (.table .heading)))
    | .moment _ => some fun _ => none
    | _ => none
  text?
    | .string s => some s
    | _ => none
  natural?
    | .integer n => if 0 ≤ n then some n.toNat else none
    | _ => none
  isNull _ := false

open SettingSource

variable {α : Type} [SettingSource α]

def textOr (default : String) : Option α → Option String
  | none => some default
  | some v => text? v

def optionalText : Option α → Option (Option String)
  | none => some none
  | some v => if isNull v then some none else (text? v).map some

def naturalOr (default bound : Nat) : Option α → Option Nat
  | none => some default
  | some v => (natural? v).filter (· < bound)

def word16Or (default : UInt16) (v : Option α) : Option UInt16 :=
  (naturalOr default.toNat UInt16.size v).map Nat.toUInt16

def word32Or (default : UInt32) (v : Option α) : Option UInt32 :=
  (naturalOr default.toNat UInt32.size v).map Nat.toUInt32

def word64Or (default : UInt64) (v : Option α) : Option UInt64 :=
  (naturalOr default.toNat UInt64.size v).map Nat.toUInt64

def sectionOr {β : Type} (default : β) (read : α → Option β) : Option α → Option β
  | none => some default
  | some v => read v

def AdminSettings.ofSource (v : α) : Option AdminSettings := do
  let at? ← table? ["host", "admin_port", "admin_username", "admin_password", "admin_socket",
    "monitor_username", "monitor_password"] v
  let default : AdminSettings := {}
  return {
    host := ← textOr default.host (at? "host")
    port := ← word16Or default.port (at? "admin_port")
    username := ← textOr default.username (at? "admin_username")
    password := ← textOr default.password (at? "admin_password")
    socket := ← optionalText (at? "admin_socket")
    monitorUsername := ← optionalText (at? "monitor_username")
    monitorPassword := ← optionalText (at? "monitor_password") }

def ClusterSettings.ofSource (v : α) : Option ClusterSettings := do
  let at? ← table? ["cluster_host", "cluster_username", "cluster_password", "load_balancing_mode",
    "writer_hostgroup_id", "reader_hostgroup_id", "writer_blacklist"] v
  let default : ClusterSettings := {}
  return {
    hosts := ← textOr default.hosts (at? "cluster_host")
    username := ← textOr default.username (at? "cluster_username")
    password := ← textOr default.password (at? "cluster_password")
    mode := ← textOr default.mode (at? "load_balancing_mode")
    writerGroup := ← word32Or default.writerGroup (at? "writer_hostgroup_id")
    readerGroup := ← word32Or default.readerGroup (at? "reader_hostgroup_id")
    blacklist := ← optionalText (at? "writer_blacklist") }

def TimeoutSettings.ofSource (v : α) : Option TimeoutSettings := do
  let at? ← table? ["node_connect_secs", "admin_connect_secs"] v
  let default : TimeoutSettings := {}
  return {
    nodeSecs := ← word64Or default.nodeSecs (at? "node_connect_secs")
    adminSecs := ← word64Or default.adminSecs (at? "admin_connect_secs") }

def LogSettings.ofSource (v : α) : Option LogSettings := do
  let at? ← table? ["log_level", "log_format"] v
  let default : LogSettings := {}
  return {
    level := ← textOr default.level (at? "log_level")
    format := ← textOr default.format (at? "log_format") }

def Settings.ofSource (v : α) : Option Settings := do
  let at? ← table? ["proxysql", "galera", "timeouts", "observability"] v
  return {
    admin := ← sectionOr {} AdminSettings.ofSource (at? "proxysql")
    cluster := ← sectionOr {} ClusterSettings.ofSource (at? "galera")
    timeouts := ← sectionOr {} TimeoutSettings.ofSource (at? "timeouts")
    log := ← sectionOr {} LogSettings.ofSource (at? "observability") }

end SingleWriter
