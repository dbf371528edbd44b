import SingleWriter.Addr

/-!
# Writer blacklist

Addresses that become writer only when nothing else can.
-/

set_option autoImplicit false

namespace SingleWriter

structure Blacklist where
  entries : List Addr := []
  deriving DecidableEq, Inhabited

namespace Blacklist

def parse (list : String) : Blacklist := ⟨Addr.parseListLenient list⟩

def contains (b : Blacklist) (addr : Addr) : Bool := addr ∈ b.entries

def isEmpty (b : Blacklist) : Bool := b.entries.isEmpty

end Blacklist

end SingleWriter
