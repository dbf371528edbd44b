import SingleWriter.Proofs.Sessions

/-!
# Replies that fail a request

What comes of a request is settled by the reply that the script of its server has for it. A
failure or a stall fails every request. Rows fail only a query, and only when one of their
cells was sent as bytes that are not text.
-/

set_option autoImplicit false

namespace SingleWriter.Sql

def Script.reply (s : Script) (statement : String) : Reply :=
  ((s.rules.find? (·.answers statement)).map Rule.reply).getD (.affected 0)

namespace Client

variable (c : Client)

variable {c} {n : Network} {server : Server}

end Client

end SingleWriter.Sql
