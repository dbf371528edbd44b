import SingleWriter.Text.Numeral

/-!
# JSON values

A value keeps what its text says and interprets nothing: a number is its sign and
digits, an object is its members in order, repeated keys included. A string in
which some escape stands for half of a surrogate pair names no text, and is kept as
`none`.

A number is in range when rounding its leading digits and its power of ten to
double precision, and then their product, stays below 2 ^ 1024.
-/

set_option autoImplicit false

namespace SingleWriter

structure Json.Number where
  negative : Bool := false
  whole : List Char
  fraction : List Char := []
  /-- Whether the exponent is negative, and its digits. -/
  exponent : Option (Bool × List Char) := none
  deriving DecidableEq

inductive Json where
  | null
  | bool (b : Bool)
  | number (n : Json.Number)
  | string (text : Option String)
  | array (items : List Json)
  | object (members : List (Option String × Json))

namespace Json

def nat (n : Nat) : Json := .number { whole := Text.decimal n }

def text (s : String) : Json := .string (some s)

def optional (s : Option String) : Json :=
  match s with
  | some t => .text t
  | none => .null

def record (members : List (String × Json)) : Json :=
  .object (members.map fun m => (some m.1, m.2))

/-- The value of the last member with this key. -/
def member? (key : String) : Json → Option Json
  | .object members => (members.reverse.find? fun m => m.1 = some key).map Prod.snd
  | _ => none

def text? : Json → Option String
  | .string s => s
  | _ => none

def bool? : Json → Option Bool
  | .bool b => some b
  | _ => none

def items? : Json → Option (List Json)
  | .array items => some items
  | _ => none

namespace Number

/-- The value of an integer written without fraction, exponent and sign. -/
def natural? (n : Number) : Option Nat :=
  if n.negative ∨ n.fraction ≠ [] ∨ n.exponent ≠ none then none
  else Text.digitsValue? n.whole

/-- The leading digits as far as they fit into 64 bits; the rest only counts as places. -/
def leading (value : Nat) (dropped : Nat) : List Char → Nat × Nat
  | [] => (value, dropped)
  | c :: cs =>
    let next := 10 * value + (c.toNat - '0'.toNat)
    if dropped = 0 ∧ next < UInt64.size then leading next 0 cs else leading value (dropped + 1) cs

/-- Rounded to 53 significant bits, halves to even. -/
def toDouble (n : Nat) : Nat :=
  let excess := n.log2 + 1 - 53
  let unit := 1 <<< excess
  let q := n / unit
  let r := n % unit
  if 2 * r > unit ∨ (2 * r = unit ∧ q % 2 = 1) then (q + 1) * unit else q * unit

def exponentValue (n : Number) : Int :=
  match n.exponent with
  | none => 0
  | some (negative, ds) =>
    let value : Int := Nat.ofDigitChars 10 ds 0
    if negative then -value else value

def inRange (n : Number) : Bool :=
  let (significand, dropped) := leading 0 0 (n.whole ++ n.fraction)
  let exponent : Int := dropped - n.fraction.length + n.exponentValue
  significand == 0 || exponent < 0 ||
    (exponent ≤ 308 && toDouble (toDouble significand * toDouble (Nat.pow 10 exponent.toNat)) < 1 <<< 1024)

end Number

def natural? : Json → Option Nat
  | .number n => n.natural?
  | _ => none

/-! ## Measures -/

mutual

/-- How many arrays and objects are nested in the value, the value itself counted. -/
def depth : Json → Nat
  | .array items => 1 + depthOfItems items
  | .object members => 1 + depthOfMembers members
  | _ => 0

def depthOfItems : List Json → Nat
  | [] => 0
  | v :: vs => max (depth v) (depthOfItems vs)

def depthOfMembers : List (Option String × Json) → Nat
  | [] => 0
  | (_, v) :: ms => max (depth v) (depthOfMembers ms)

end

mutual

/-- Every string in the value names a text and every number is in range. -/
def isPlain : Json → Bool
  | .number n => n.inRange
  | .string s => s.isSome
  | .array items => arePlainItems items
  | .object members => arePlainMembers members
  | _ => true

def arePlainItems : List Json → Bool
  | [] => true
  | v :: vs => isPlain v && arePlainItems vs

def arePlainMembers : List (Option String × Json) → Bool
  | [] => true
  | (k, v) :: ms => k.isSome && isPlain v && arePlainMembers ms

end

end Json

end SingleWriter
