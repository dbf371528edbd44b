import SingleWriter.Text.Blank
import SingleWriter.Text.Numeral
import SingleWriter.Text.Cut

/-!
# Server addresses

An address is a host and a port. Its text puts a colon between them, and brackets
around a host that has a colon itself. Reading cuts at the last colon, forgives
blanks around either part and any brackets around the host, and refuses an empty
host before it looks at the port.

Addresses are ordered by host, then by port. A list of addresses is written with
commas; empty items are no items. The strict reader refuses the list with the first
malformed item, the lenient one skips malformed items.
-/

set_option autoImplicit false

namespace SingleWriter

structure Addr where
  host : String
  port : UInt16
  deriving DecidableEq, Inhabited

inductive AddrError where
  | missingPort (text : String)
  | emptyHost (text : String)
  | invalidPort (text : String)
  deriving DecidableEq

def AddrError.message : AddrError → String
  | .missingPort text => s!"'{text}' is not in host:port format"
  | .emptyHost text => s!"'{text}' has an empty host"
  | .invalidPort text => s!"'{text}' has an invalid port"

namespace Addr

def hostChars (a : Addr) : List Char :=
  let host := a.host.toList
  if ':' ∈ host then '[' :: (host ++ [']']) else host

def chars (a : Addr) : List Char := a.hostChars ++ ':' :: Text.decimal a.port.toNat

def text (a : Addr) : String := String.ofList a.chars

instance : ToString Addr := ⟨text⟩

instance : Ord Addr := ⟨compareLex (compareOn Addr.host) (compareOn Addr.port)⟩

def bareHost (cs : List Char) : List Char :=
  Text.dropRightWhile (· == ']') ((Text.trim cs).dropWhile (· == '['))

def read (cs : List Char) : Except AddrError Addr :=
  let whole := Text.trim cs
  match Text.cutLast ':' whole with
  | none => .error (.missingPort (String.ofList whole))
  | some (before, after) =>
    match bareHost before with
    | [] => .error (.emptyHost (String.ofList whole))
    | host =>
      match Text.word16? (Text.trim after) with
      | none => .error (.invalidPort (String.ofList whole))
      | some port => .ok ⟨String.ofList host, port⟩

def parse (s : String) : Except AddrError Addr := read s.toList

/-- The items of a list are trimmed, and blank ones are left out. -/
def listItems (cs : List Char) : List (List Char) :=
  ((Text.pieces ',' cs).map Text.trim).filter (· ≠ [])

def parseList (s : String) : Except AddrError (List Addr) := (listItems s.toList).mapM read

def parseListLenient (s : String) : List Addr :=
  (listItems s.toList).filterMap fun item => (read item).toOption

end Addr

end SingleWriter
