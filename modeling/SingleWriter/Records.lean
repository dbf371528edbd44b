import SingleWriter.Account
import SingleWriter.Json
import SingleWriter.Reconciler

/-!
# JSON records

Rows, accounts and reports as JSON objects, their members in the order of the
columns. An overview of the two hostgroups has its members, at every level, in the
order of their names.
-/

set_option autoImplicit false

namespace SingleWriter

def Addr.toJson (a : Addr) : Json :=
  .record [("host", .text a.host), ("port", .nat a.port.toNat)]

def Annotation.toJson (a : Annotation) : Json :=
  .record [("role", .text a.role.name), ("admin_override", .optional (a.override.map Status.name))]

def Backend.toJson (b : Backend) : Json :=
  .record [
    ("hostgroup_id", .nat b.hostgroup.toNat),
    ("hostname", .text b.addr.host),
    ("port", .nat b.addr.port.toNat),
    ("status", .text b.status.name),
    ("weight", .nat b.weight.toNat),
    ("compression", .nat b.compression.toNat),
    ("max_connections", .nat b.maxConnections.toNat),
    ("max_replication_lag", .nat b.maxReplicationLag.toNat),
    ("use_ssl", .bool b.useSsl),
    ("max_latency_ms", .nat b.maxLatencyMs.toNat),
    ("annotation", b.annotation.toJson)]

def Account.toJson (a : Account) : Json :=
  .record [
    ("username", .text a.username),
    ("password", .text a.password),
    ("active", .bool a.active),
    ("use_ssl", .bool a.useSsl),
    ("default_hostgroup", .nat a.defaultHostgroup.toNat),
    ("default_schema", .optional a.defaultSchema),
    ("schema_locked", .bool a.schemaLocked),
    ("transaction_persistent", .bool a.transactionPersistent),
    ("fast_forward", .bool a.fastForward),
    ("backend", .bool a.backend),
    ("frontend", .bool a.frontend),
    ("max_connections", .nat a.maxConnections.toNat)]

def Mutation.toJson (m : Mutation) : Json :=
  .record [("action", .text m.action), ("backend", m.backend.toJson)]

def Report.toJson (r : Report) : Json :=
  .record [
    ("writer", match r.writer with
      | some addr => addr.toJson
      | none => .null),
    ("mutations", .array (r.mutations.map Mutation.toJson))]

namespace Json

def insertMember (key : Option String) (v : Json) :
    List (Option String × Json) → List (Option String × Json)
  | [] => [(key, v)]
  | m :: ms => if key.getD "" ≤ m.1.getD "" then (key, v) :: m :: ms else m :: insertMember key v ms

mutual

/-- The same value with the members of every object in the order of their names. -/
def inOrder : Json → Json
  | .array items => .array (itemsInOrder items)
  | .object members => .object (membersInOrder members)
  | v => v

def itemsInOrder : List Json → List Json
  | [] => []
  | v :: vs => inOrder v :: itemsInOrder vs

def membersInOrder : List (Option String × Json) → List (Option String × Json)
  | [] => []
  | (k, v) :: ms => insertMember k (inOrder v) (membersInOrder ms)

end

end Json

/-- Both hostgroups with their rows. -/
def overview (writerGroup readerGroup : UInt32) (writers readers : List Backend) : Json :=
  let group (id : UInt32) (rows : List Backend) : Json :=
    .record [("id", .nat id.toNat), ("backends", .array (rows.map Backend.toJson))]
  Json.inOrder (.record [
    ("writer_hostgroup", group writerGroup writers),
    ("reader_hostgroup", group readerGroup readers)])

end SingleWriter
