import SingleWriter.Text.Hex
import SingleWriter.Text.Numeral
import SingleWriter.Toml

/-!
# Numbers and moments in TOML

A number or a moment is written without blanks, except for the one that may stand
between a date and its time. An integer is decimal with an optional sign and no
leading zero, or hexadecimal, octal or binary after its mark, and has to fit into
64 bits with sign. A float has a fraction or an exponent and must not round to
positive infinity in double precision. Single underscores may stand between digits.

A moment is a date, a time, or a date and a time with or without an offset from
universal time. The day has to exist in its month; a minute may have a leap second.
-/

set_option autoImplicit false

namespace SingleWriter.Toml

/-- Digits with single underscores between them, the underscores left out. -/
def grouped? (isDigit : Char → Bool) : List Char → Option (List Char)
  | [] => none
  | [c] => if isDigit c then some [c] else none
  | c :: '_' :: cs => if isDigit c then (grouped? isDigit cs).map (c :: ·) else none
  | c :: cs => if isDigit c then (grouped? isDigit cs).map (c :: ·) else none

/-! ## Integers -/

def isDigitBelow (base : Nat) (c : Char) : Bool := (Text.hexValue? c).any (· < base)

def valueIn (base : Nat) (ds : List Char) : Nat :=
  ds.foldl (fun n c => base * n + (Text.hexValue? c).getD 0) 0

def marked? (base : Nat) (cs : List Char) : Option Int :=
  ((grouped? (isDigitBelow base) cs).map (valueIn base)).bind fun n =>
    if n < 1 <<< 63 then some n else none

def sign : List Char → Bool × List Char
  | '-' :: cs => (true, cs)
  | '+' :: cs => (false, cs)
  | cs => (false, cs)

/-- The digits of a decimal number, which does not begin with a needless zero. -/
def decimal? (cs : List Char) : Option (List Char) :=
  match grouped? Char.isDigit cs with
  | some ('0' :: _ :: _) => none
  | ds => ds

def signed? (cs : List Char) : Option Int :=
  let (negative, cs) := sign cs
  (decimal? cs).bind fun ds =>
    let n := valueIn 10 ds
    if negative then if n ≤ 1 <<< 63 then some (-(n : Int)) else none
    else if n < 1 <<< 63 then some (n : Int) else none

def integer? : List Char → Option Int
  | '0' :: 'x' :: cs => marked? 16 cs
  | '0' :: 'o' :: cs => marked? 8 cs
  | '0' :: 'b' :: cs => marked? 2 cs
  | cs => signed? cs

/-! ## Floats -/

/-- Whether the digits, shifted by `scale` places, round to infinity in double precision. -/
def overflows (digits : List Char) (scale : Int) : Bool :=
  let n := valueIn 10 digits
  let places : Int := (Text.decimal n).length + scale
  let bound := (1 <<< 1024) - (1 <<< 970)
  n != 0 && decide (300 < places) &&
    (decide (310 < places) ||
      if 0 ≤ scale then decide (bound ≤ n * Nat.pow 10 scale.toNat)
      else decide (bound * Nat.pow 10 (-scale).toNat ≤ n))

def isGroupChar (c : Char) : Bool := c.isDigit || c == '_'

def fraction? : List Char → Option (List Char × List Char)
  | '.' :: cs => (grouped? Char.isDigit (cs.takeWhile isGroupChar)).map (·, cs.dropWhile isGroupChar)
  | cs => some ([], cs)

def exponent? : List Char → Option Int
  | [] => some 0
  | c :: cs =>
    if c = 'e' ∨ c = 'E' then
      let (negative, cs) := sign cs
      (grouped? Char.isDigit cs).map fun ds =>
        if negative then -(valueIn 10 ds : Int) else valueIn 10 ds
    else none

def isSpecial (cs : List Char) : Bool :=
  let name := (sign cs).2
  name == "inf".toList || name == "nan".toList

def isFloat (cs : List Char) : Bool :=
  let (negative, cs) := sign cs
  let rest := cs.dropWhile isGroupChar
  match decimal? (cs.takeWhile isGroupChar), fraction? rest with
  | some whole, some (fraction, last) =>
    match exponent? last with
    | some e => rest != [] && (negative || !overflows (whole ++ fraction) (e - fraction.length))
    | none => false
  | _, _ => false

/-! ## Moments -/

def isLeap (year : Nat) : Bool := year % 4 == 0 && (year % 100 != 0 || year % 400 == 0)

def daysIn (year month : Nat) : Nat :=
  if month = 2 then if isLeap year then 29 else 28
  else if month ∈ [4, 6, 9, 11] then 30
  else if 1 ≤ month ∧ month ≤ 12 then 31
  else 0

/-- What follows a date. -/
def afterDate? : List Char → Option (List Char)
  | a :: b :: c :: d :: '-' :: e :: f :: '-' :: g :: h :: rest =>
    match Text.digitsValue? [a, b, c, d], Text.digitsValue? [e, f], Text.digitsValue? [g, h] with
    | some year, some month, some day =>
      if 1 ≤ day ∧ day ≤ daysIn year month then some rest else none
    | _, _, _ => none
  | _ => none

def isBelow (bound : Nat) (cs : List Char) : Bool := (Text.digitsValue? cs).any (· < bound)

def afterFraction? : List Char → Option (List Char)
  | '.' :: cs => if cs.head?.any Char.isDigit then some (cs.dropWhile Char.isDigit) else none
  | cs => some cs

/-- What follows a time. -/
def afterTime? : List Char → Option (List Char)
  | a :: b :: ':' :: c :: d :: ':' :: e :: f :: rest =>
    if isBelow 24 [a, b] && isBelow 60 [c, d] && isBelow 61 [e, f] then afterFraction? rest else none
  | _ => none

def isOffset : List Char → Bool
  | [] => true
  | [c] => c == 'Z' || c == 'z'
  | [s, a, b, ':', c, d] => (s == '+' || s == '-') && isBelow 24 [a, b] && isBelow 60 [c, d]
  | _ => false

def isMoment (cs : List Char) : Bool :=
  match afterDate? cs with
  | some [] => true
  | some (c :: rest) => (c == 'T' || c == 't' || c == ' ') && (afterTime? rest).any isOffset
  | none => afterTime? cs == some []

/-! ## Tokens -/

def isScalarChar (c : Char) : Bool :=
  c.isAlphanum || c == '+' || c == '-' || c == '.' || c == '_' || c == ':'

/-- The characters of a number, a moment or a name, and what follows them. -/
def token (cs : List Char) : List Char × List Char :=
  let (t, rest) := cs.span isScalarChar
  match rest with
  | ' ' :: c :: more =>
    if afterDate? t = some [] ∧ c.isDigit then
      let (time, rest) := (c :: more).span isScalarChar
      (t ++ ' ' :: time, rest)
    else (t, rest)
  | _ => (t, rest)

def scalarOf (t : List Char) : Option Toml :=
  if t = "true".toList then some (.bool true)
  else if t = "false".toList then some (.bool false)
  else if isMoment t then some (.moment (String.ofList t))
  else if isSpecial t || isFloat t then some (.float (String.ofList t))
  else (integer? t).map .integer

def scalar (cs : List Char) : Option (Toml × List Char) :=
  let (t, rest) := token cs
  (scalarOf t).map (·, rest)

end SingleWriter.Toml
