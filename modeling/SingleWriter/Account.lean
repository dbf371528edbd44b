import SingleWriter.Table

/-!
# Accounts

An account is one row of the router's user table. A username may have two rows, one
towards the backends and one that is not, so the key is both together. Changes leave
alone every column they do not name.
-/

set_option autoImplicit false

namespace SingleWriter

structure Account where
  username : String
  password : String
  active : Bool := true
  useSsl : Bool := false
  defaultHostgroup : UInt32 := 0
  defaultSchema : Option String := some "information_schema"
  schemaLocked : Bool := false
  transactionPersistent : Bool := false
  fastForward : Bool := false
  backend : Bool := true
  frontend : Bool := true
  maxConnections : UInt32 := 10000
  deriving DecidableEq

namespace Account

structure Key where
  username : String
  backend : Bool
  deriving DecidableEq

instance : Ord Key := ⟨compareLex (compareOn Key.username) (compareOn Key.backend)⟩

def key (a : Account) : Key := ⟨a.username, a.backend⟩

structure Changes where
  active : Option Bool := none
  useSsl : Option Bool := none
  defaultHostgroup : Option UInt32 := none
  defaultSchema : Option String := none
  schemaLocked : Option Bool := none
  transactionPersistent : Option Bool := none
  fastForward : Option Bool := none
  backend : Option Bool := none
  frontend : Option Bool := none
  maxConnections : Option UInt32 := none
  deriving DecidableEq

def Changes.isEmpty (c : Changes) : Bool := c = {}

def Changes.apply (c : Changes) (a : Account) : Account :=
  { a with
    active := c.active.getD a.active
    useSsl := c.useSsl.getD a.useSsl
    defaultHostgroup := c.defaultHostgroup.getD a.defaultHostgroup
    defaultSchema := c.defaultSchema.or a.defaultSchema
    schemaLocked := c.schemaLocked.getD a.schemaLocked
    transactionPersistent := c.transactionPersistent.getD a.transactionPersistent
    fastForward := c.fastForward.getD a.fastForward
    backend := c.backend.getD a.backend
    frontend := c.frontend.getD a.frontend
    maxConnections := c.maxConnections.getD a.maxConnections }

/-- The first row of each key, in order. -/
def firstPerKey : List Account → List Account
  | [] => []
  | a :: rest => a :: (firstPerKey rest).filter (·.key ≠ a.key)

end Account

abbrev Accounts := Table Account.key

end SingleWriter
