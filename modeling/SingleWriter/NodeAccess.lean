import SingleWriter.Action
import SingleWriter.Node

/-!
# Access to the nodes

How the nodes of a cluster are read, over whatever state they live in.
-/

set_option autoImplicit false

namespace SingleWriter

structure NodeAccess (σ : Type) where
  fetch : Addr → EStateM NodeError σ Node
  /-- The addresses of the members, as the node reports them. -/
  peers : Addr → EStateM NodeError σ (List Addr)
  setDesync : Addr → Bool → EStateM NodeError σ Unit

namespace NodeAccess

variable {σ τ : Type}

def within (part : τ → σ) (replace : σ → τ → τ) (nodes : NodeAccess σ) : NodeAccess τ where
  fetch addr := Action.within part replace (nodes.fetch addr)
  peers addr := Action.within part replace (nodes.peers addr)
  setDesync addr on := Action.within part replace (nodes.setDesync addr on)

end NodeAccess

end SingleWriter
