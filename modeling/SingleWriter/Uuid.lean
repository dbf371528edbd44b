import SingleWriter.Text.Numeral
import SingleWriter.Text.Hex

/-!
# Cluster state identifiers

A UUID is 128 bits, written as 32 lower-case hexadecimal digits with hyphens after
the digits 8, 12, 16 and 20. Four forms are read: the bare digits, the hyphenated
form, the hyphenated form in braces, and the hyphenated form after `urn:uuid:`.
Letter case is ignored throughout.

A text in none of these forms is described by the first of these faults it has: no
text or too much of it, a character that is neither a hexadecimal digit nor a
hyphen, a wrong number of digits or of groups, a group of the wrong length. Lengths
and places count UTF-8 bytes.
-/

set_option autoImplicit false

namespace SingleWriter

structure Uuid where
  bits : BitVec 128
  deriving DecidableEq, Inhabited

namespace Uuid

def groupLengths : List Nat := [8, 4, 4, 4, 12]

def groupStarts : List Nat := [0, 9, 14, 19]

/-- The digits of `bits`, most significant first. -/
def digits (u : Uuid) : List Char :=
  (List.range 32).map fun i => Text.hexDigit (u.bits.toNat >>> (4 * (31 - i)) % 16)

def hyphenated : List Nat → List Char → List Char
  | [], cs => cs
  | [_], cs => cs
  | n :: ns, cs => cs.take n ++ '-' :: hyphenated ns (cs.drop n)

def text (u : Uuid) : String := String.ofList (hyphenated groupLengths u.digits)

def ofDigits? (cs : List Char) : Option Uuid :=
  if cs.length = 32 then
    (cs.mapM Text.hexValue?).map fun ds => ⟨BitVec.ofNat 128 (ds.foldl (fun n d => 16 * n + d) 0)⟩
  else none

/-- The digits of a hyphenated form: each group has its length and a hyphen divides it from the next. -/
def ungrouped? : List Nat → List Char → Option (List Char)
  | [], cs => if cs = [] then some [] else none
  | [n], cs => if cs.length = n then some cs else none
  | n :: ns, cs =>
    match cs.drop n with
    | '-' :: rest => (ungrouped? ns rest).map (cs.take n ++ ·)
    | _ => none

def ofHyphenated? (cs : List Char) : Option Uuid :=
  (ungrouped? groupLengths cs).bind ofDigits?

def byteLength (cs : List Char) : Nat := cs.foldl (fun n c => n + c.utf8Size) 0

def urn : List Char := "urn:uuid:".toList

def afterUrn? (cs : List Char) : Option (List Char) :=
  if (cs.take 9).map Char.toLower = urn then some (cs.drop 9) else none

def insideBraces? (cs : List Char) : Option (List Char) :=
  match cs with
  | '{' :: rest => if rest.getLast? = some '}' then some rest.dropLast else none
  | _ => none

inductive Fault where
  | length (found : Nat)
  | character (found : Char) (index : Nat)
  | groupCount (found : Nat)
  | groupLength (group expected found : Nat)
  deriving DecidableEq

def Fault.message : Fault → String
  | .length found => s!"invalid length: found {Text.decimalText found}"
  | .character found index =>
    "invalid character: found \x60" ++ String.singleton found ++ "\x60 at " ++ Text.decimalText index
  | .groupCount found => s!"invalid group count: expected 5, found {Text.decimalText found}"
  | .groupLength group expected found =>
    s!"invalid group length in group {Text.decimalText group}: expected {Text.decimalText expected}, found {Text.decimalText found}"

/-- Byte places of the hyphens of a text, counted from `start`. -/
def hyphenPlaces (start : Nat) : List Char → List Nat
  | [] => []
  | c :: cs =>
    if c = '-' then start :: hyphenPlaces (start + 1) cs else hyphenPlaces (start + c.utf8Size) cs

def strayCharacter? (start : Nat) : List Char → Option (Char × Nat)
  | [] => none
  | c :: cs =>
    if c = '-' ∨ (Text.hexValue? c).isSome then strayCharacter? (start + c.utf8Size) cs
    else some (c, start)

/-- The first group that does not end where it should, given the places of four hyphens. -/
def wrongGroup? : Nat → List Nat → List Nat → List Nat → Option Fault
  | i, n :: ns, s :: ss, p :: ps =>
    if p = s + n then wrongGroup? (i + 1) ns ss ps else some (.groupLength i n (p - s))
  | _, _, _, _ => none

/-- The fault of a malformed text. A text known to be meant as hyphenated is never taken for bare digits. -/
def fault (cs : List Char) (knownHyphenated : Bool) : Fault :=
  let size := byteLength cs
  if size = 0 ∨ 45 < size then .length size
  else
    let (inner, offset, wrapped) :=
      if knownHyphenated then (cs, 0, true)
      else match insideBraces? cs, afterUrn? cs with
        | some inner, _ => (inner, 1, true)
        | none, some inner => (inner, 9, true)
        | none, none => (cs, 0, false)
    match strayCharacter? offset inner with
    | some (c, index) => .character c index
    | none =>
      let places := hyphenPlaces 0 inner
      if places = [] ∧ wrapped = false then .length size
      else if places.length ≠ 4 then .groupCount (places.length + 1)
      else (wrongGroup? 0 groupLengths groupStarts places).getD (.groupLength 4 12 (size - 24))

/-- A text of the right length for one of the wrapped forms is judged by its hyphenated part alone. -/
def hyphenatedPart? (cs : List Char) : Option (List Char) :=
  match byteLength cs with
  | 36 => some cs
  | 38 => insideBraces? cs
  | 45 => afterUrn? cs
  | _ => none

def read (cs : List Char) : Except Fault Uuid :=
  match hyphenatedPart? cs with
  | some part =>
    match ofHyphenated? part with
    | some u => .ok u
    | none => .error (fault part true)
  | none =>
    match ofDigits? cs with
    | some u => .ok u
    | none => .error (fault cs false)

def parse (s : String) : Except Fault Uuid := read s.toList

end Uuid

end SingleWriter
