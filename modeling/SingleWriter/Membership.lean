import SingleWriter.Node
import SingleWriter.Table

/-!
# Membership

The members of one cluster in the order in which they were found, one node to an
address. The tier of a membership is the synced state when some member is synced,
else the donor state when some member is a donor.
-/

set_option autoImplicit false

namespace SingleWriter

abbrev Membership := Table Node.addr

namespace Membership

def addresses (m : Membership) : List Addr := m.rows.map Node.addr

def tier? (m : Membership) : Option LocalState :=
  [LocalState.synced, LocalState.donor].find? fun s => m.rows.any (·.state = s)

end Membership

end SingleWriter
