import SingleWriter.Account
import SingleWriter.Backend.Comment

/-!
# Statements of the admin interface

A statement is a list of parts, each either plain text or a string literal. In a
literal only the quote is special, and it is written twice; a backslash is an
ordinary character. Whatever comes from outside goes into a literal, or is a number.
-/

set_option autoImplicit false

namespace SingleWriter.Sql

def quoteChars (cs : List Char) : List Char :=
  '\'' :: (cs.flatMap (fun c => if c = '\'' then ['\'', '\''] else [c]) ++ ['\''])

def quote (s : String) : String := String.ofList (quoteChars s.toList)

inductive Part where
  | plain (text : String)
  | literal (value : String)
  deriving DecidableEq

def Part.chars : Part → List Char
  | .plain text => text.toList
  | .literal value => quoteChars value.toList

abbrev Statement := List Part

def Statement.text (s : Statement) : String := String.ofList (s.flatMap Part.chars)

inductive Value where
  | number (n : Nat)
  | text (s : String)
  | null
  deriving DecidableEq

namespace Value

def bit (b : Bool) : Value := .number (if b then 1 else 0)

def ofOption : Option String → Value
  | some s => .text s
  | none => .null

def part : Value → Part
  | .number n => .plain (Text.decimalText n)
  | .text s => .literal s
  | .null => .plain "NULL"

end Value

def commaSeparated : List Value → List Part
  | [] => []
  | [v] => [v.part]
  | v :: w :: vs => v.part :: .plain ", " :: commaSeparated (w :: vs)

def columnList (columns : List String) : String := ", ".intercalate columns

def replaceInto (table : String) (columns : List String) (values : List Value) : Statement :=
  .plain s!"REPLACE INTO {table} ({columnList columns}) VALUES (" ::
    (commaSeparated values ++ [.plain ")"])

/-! ## Servers -/

def serverColumns : List String :=
  ["hostgroup_id", "hostname", "port", "status", "weight", "compression", "max_connections",
    "max_replication_lag", "use_ssl", "max_latency_ms", "comment"]

def serverValues (b : Backend) : List Value :=
  [.number b.hostgroup.toNat, .text b.addr.host, .number b.addr.port.toNat, .text b.status.name,
    .number b.weight.toNat, .number b.compression.toNat, .number b.maxConnections.toNat,
    .number b.maxReplicationLag.toNat, .bit b.useSsl, .number b.maxLatencyMs.toNat,
    .ofOption b.annotation.toComment]

def replaceServer (b : Backend) : Statement := replaceInto "mysql_servers" serverColumns (serverValues b)

def hostgroupFilter (hostgroup : UInt32) : List Part :=
  [.plain s!"hostgroup_id = {Text.decimalText hostgroup.toNat}"]

def statusFilter (status : Status) : List Part := [.plain "status = ", .literal status.name]

/-- The conditions that are given, joined after WHERE. -/
def whereAll : List (List Part) → List Part
  | [] => []
  | c :: cs => .plain " WHERE " :: (c ++ cs.flatMap (.plain " AND " :: ·))

def selectServers (hostgroup : Option UInt32) (status : Option Status) : Statement :=
  .plain s!"SELECT {columnList serverColumns} FROM mysql_servers" ::
    (whereAll ((hostgroup.map hostgroupFilter).toList ++ (status.map statusFilter).toList) ++
      [.plain " ORDER BY hostgroup_id, hostname, port"])

def rowFilter (b : Backend) : List Part :=
  [.plain s!"hostgroup_id = {Text.decimalText b.hostgroup.toNat} AND hostname = ",
    .literal b.addr.host, .plain s!" AND port = {Text.decimalText b.addr.port.toNat}"]

def countServers (b : Backend) : Statement :=
  .plain "SELECT COUNT(*) AS n FROM mysql_servers WHERE " :: rowFilter b

def updateStatus (b : Backend) (status : Status) : Statement :=
  [.plain "UPDATE mysql_servers SET status = ", .literal status.name, .plain " WHERE "] ++ rowFilter b

def updateVariable (name value : String) : Statement :=
  [.plain "UPDATE global_variables SET variable_value = ", .literal value,
    .plain " WHERE variable_name = ", .literal name]

/-! ## Users -/

def userColumns : List String :=
  ["username", "password", "active", "use_ssl", "default_hostgroup", "default_schema",
    "schema_locked", "transaction_persistent", "fast_forward", "backend", "frontend",
    "max_connections"]

def userValues (a : Account) : List Value :=
  [.text a.username, .text a.password, .bit a.active, .bit a.useSsl,
    .number a.defaultHostgroup.toNat, .ofOption a.defaultSchema, .bit a.schemaLocked,
    .bit a.transactionPersistent, .bit a.fastForward, .bit a.backend, .bit a.frontend,
    .number a.maxConnections.toNat]

def replaceUser (a : Account) : Statement := replaceInto "mysql_users" userColumns (userValues a)

def selectUsers (username : Option String) : Statement :=
  .plain s!"SELECT {columnList userColumns} FROM mysql_users" ::
    (whereAll (username.map fun name => [.plain "username = ", .literal name]).toList ++
      [.plain " ORDER BY username, backend"])

def deleteUsers (username : String) : Statement :=
  [.plain "DELETE FROM mysql_users WHERE username = ", .literal username]

/-! ## Fixed statements -/

def plainText (text : String) : Statement := [.plain text]

def reloadServers : List Statement :=
  [plainText "LOAD MYSQL SERVERS TO RUNTIME", plainText "LOAD MYSQL VARIABLES TO RUNTIME",
    plainText "SAVE MYSQL SERVERS TO DISK", plainText "SAVE MYSQL VARIABLES TO DISK"]

def reloadUsers : List Statement :=
  [plainText "LOAD MYSQL USERS TO RUNTIME", plainText "SAVE MYSQL USERS TO DISK"]

end SingleWriter.Sql
