import SingleWriter.Json
import SingleWriter.Text.Hex

/-!
# Reading JSON

The whole text has to be one value, with blanks, tabs and line ends between tokens
and nothing else after it. Nesting may be of any depth. The fuel of the reader is
taken from the length of the text, and every step that nests or goes on spends some
text, so it never runs out.
-/

set_option autoImplicit false

namespace SingleWriter.Json

def isSpace (c : Char) : Bool := c == ' ' || c == '\t' || c == '\n' || c == '\r'

def skipSpace (cs : List Char) : List Char := cs.dropWhile isSpace

/-! ## Strings -/

def hexWord? (a b c d : Char) : Option Nat :=
  match Text.hexValue? a, Text.hexValue? b, Text.hexValue? c, Text.hexValue? d with
  | some a, some b, some c, some d => some (((a * 16 + b) * 16 + c) * 16 + d)
  | _, _, _, _ => none

def escaped? : Char → Option Nat
  | '"' => some 0x22
  | '\\' => some 0x5C
  | '/' => some 0x2F
  | 'b' => some 0x08
  | 'f' => some 0x0C
  | 'n' => some 0x0A
  | 'r' => some 0x0D
  | 't' => some 0x09
  | _ => none

/-- The code units of a string after its opening quote, and what follows its closing quote. -/
def units : List Char → Option (List Nat × List Char)
  | [] => none
  | c :: cs =>
    if c = '"' then some ([], cs)
    else if c = '\\' then
      match cs with
      | 'u' :: w :: x :: y :: z :: rest =>
        match hexWord? w x y z with
        | some n => (units rest).map fun (ns, after) => (n :: ns, after)
        | none => none
      | e :: rest =>
        match escaped? e with
        | some n => (units rest).map fun (ns, after) => (n :: ns, after)
        | none => none
      | [] => none
    else if c.toNat < 0x20 then none
    else (units cs).map fun (ns, after) => (c.toNat :: ns, after)

def isHighSurrogate (n : Nat) : Bool := 0xD800 ≤ n && n ≤ 0xDBFF

def isLowSurrogate (n : Nat) : Bool := 0xDC00 ≤ n && n ≤ 0xDFFF

/-- The text that the code units spell, unless some surrogate stands alone. -/
def spelled? : List Nat → Option (List Char)
  | [] => some []
  | [n] => if isHighSurrogate n || isLowSurrogate n then none else some [Char.ofNat n]
  | n :: m :: rest =>
    if isHighSurrogate n then
      if isLowSurrogate m then
        (spelled? rest).map (Char.ofNat (0x10000 + (n - 0xD800) * 0x400 + (m - 0xDC00)) :: ·)
      else none
    else if isLowSurrogate n then none
    else (spelled? (m :: rest)).map (Char.ofNat n :: ·)

def stringTail (cs : List Char) : Option (Option String × List Char) :=
  (units cs).map fun (ns, after) => ((spelled? ns).map String.ofList, after)

/-! ## Numbers -/

def digitRun (cs : List Char) : List Char × List Char := cs.span Char.isDigit

def wholePart (cs : List Char) : Option (List Char × List Char) :=
  match digitRun cs with
  | ([], _) => none
  | ('0' :: _ :: _, _) => none
  | (ds, rest) => some (ds, rest)

def fractionPart : List Char → Option (List Char × List Char)
  | '.' :: cs =>
    match digitRun cs with
    | ([], _) => none
    | (ds, rest) => some (ds, rest)
  | cs => some ([], cs)

def exponentSign : List Char → Bool × List Char
  | '-' :: cs => (true, cs)
  | '+' :: cs => (false, cs)
  | cs => (false, cs)

def exponentPart : List Char → Option (Option (Bool × List Char) × List Char)
  | [] => some (none, [])
  | c :: cs =>
    if c = 'e' ∨ c = 'E' then
      let (negative, cs) := exponentSign cs
      match digitRun cs with
      | ([], _) => none
      | (ds, rest) => some (some (negative, ds), rest)
    else some (none, c :: cs)

def sign : List Char → Bool × List Char
  | '-' :: cs => (true, cs)
  | cs => (false, cs)

def numeral (cs : List Char) : Option (Number × List Char) := do
  let (negative, cs) := sign cs
  let (whole, cs) ← wholePart cs
  let (fraction, cs) ← fractionPart cs
  let (exponent, cs) ← exponentPart cs
  return ({ negative, whole, fraction, exponent }, cs)

/-! ## Values -/

mutual

def value : Nat → List Char → Option (Json × List Char)
  | 0, _ => none
  | fuel + 1, cs =>
    match cs with
    | 'n' :: 'u' :: 'l' :: 'l' :: rest => some (.null, rest)
    | 't' :: 'r' :: 'u' :: 'e' :: rest => some (.bool true, rest)
    | 'f' :: 'a' :: 'l' :: 's' :: 'e' :: rest => some (.bool false, rest)
    | '"' :: rest => (stringTail rest).map fun (s, after) => (.string s, after)
    | '[' :: rest =>
      match skipSpace rest with
      | ']' :: after => some (.array [], after)
      | rest => (itemsTail fuel rest).map fun (vs, after) => (.array vs, after)
    | '{' :: rest =>
      match skipSpace rest with
      | '}' :: after => some (.object [], after)
      | rest => (membersTail fuel rest).map fun (ms, after) => (.object ms, after)
    | cs => (numeral cs).map fun (n, after) => (.number n, after)

def itemsTail : Nat → List Char → Option (List Json × List Char)
  | 0, _ => none
  | fuel + 1, cs =>
    match value fuel cs with
    | none => none
    | some (v, rest) =>
      match skipSpace rest with
      | ']' :: after => some ([v], after)
      | ',' :: rest => (itemsTail fuel (skipSpace rest)).map fun (vs, after) => (v :: vs, after)
      | _ => none

def membersTail : Nat → List Char → Option (List (Option String × Json) × List Char)
  | 0, _ => none
  | fuel + 1, cs =>
    match cs with
    | '"' :: rest =>
      match stringTail rest with
      | none => none
      | some (key, rest) =>
        match skipSpace rest with
        | ':' :: rest =>
          match value fuel (skipSpace rest) with
          | none => none
          | some (v, rest) =>
            match skipSpace rest with
            | '}' :: after => some ([(key, v)], after)
            | ',' :: rest =>
              (membersTail fuel (skipSpace rest)).map fun (ms, after) => ((key, v) :: ms, after)
            | _ => none
        | _ => none
    | _ => none

end

def read (cs : List Char) : Option Json :=
  match value (2 * cs.length + 2) (skipSpace cs) with
  | some (v, rest) => if skipSpace rest = [] then some v else none
  | none => none

def parse (s : String) : Option Json := read s.toList

end SingleWriter.Json
