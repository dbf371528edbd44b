import SingleWriter.Addr

/-!
# Where a server is reached, and as whom

A server listens at a network address or at a local socket. Credentials never
show their password when they are displayed.
-/

set_option autoImplicit false

namespace SingleWriter

inductive Endpoint where
  | network (addr : Addr)
  | socket (path : String)
  deriving DecidableEq

def Endpoint.text : Endpoint → String
  | .network addr => addr.text
  | .socket path => "unix:" ++ path

structure Credentials where
  username : String
  password : String
  deriving DecidableEq, Inhabited

end SingleWriter
