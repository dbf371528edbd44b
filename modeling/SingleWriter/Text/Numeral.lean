/-!
# Unsigned numerals

A number is written in decimal without sign or leading zeros. A numeral is read
from one optional plus sign followed by at least one ASCII digit; leading zeros
are allowed, a minus sign is not, and the value has to stay below a bound. What
is written is read back, whatever the bound admits.
-/

set_option autoImplicit false

namespace SingleWriter.Text

def decimal (n : Nat) : List Char := Nat.toDigits 10 n

def decimalText (n : Nat) : String := String.ofList (decimal n)

def withoutPlus : List Char → List Char
  | '+' :: cs => cs
  | cs => cs

def digitsValue? (cs : List Char) : Option Nat :=
  if cs ≠ [] ∧ cs.all Char.isDigit then some (Nat.ofDigitChars 10 cs 0) else none

def numeral? (bound : Nat) (cs : List Char) : Option Nat :=
  (digitsValue? (withoutPlus cs)).filter (· < bound)

def byte? (cs : List Char) : Option UInt8 := (numeral? UInt8.size cs).map Nat.toUInt8

def word16? (cs : List Char) : Option UInt16 := (numeral? UInt16.size cs).map Nat.toUInt16

def word32? (cs : List Char) : Option UInt32 := (numeral? UInt32.size cs).map Nat.toUInt32

theorem decimal_isDigit {n : Nat} {c : Char} (h : c ∈ decimal n) : c.isDigit = true :=
  Nat.isDigit_of_mem_toDigits (by decide) (by decide) h

theorem digitsValue?_decimal (n : Nat) : digitsValue? (decimal n) = some n := by
  have hd : (decimal n).all Char.isDigit = true :=
    List.all_eq_true.2 fun _ h => decimal_isDigit h
  have hn : decimal n ≠ [] := Nat.toDigits_ne_nil
  simp only [digitsValue?, hd, and_true, ne_eq, hn, not_false_eq_true, if_true]
  exact congrArg some Nat.ofDigitChars_ten_toDigits

theorem withoutPlus_decimal (n : Nat) : withoutPlus (decimal n) = decimal n := by
  unfold withoutPlus
  split
  · rename_i cs h
    have hmem : '+' ∈ decimal n := by rw [h]; simp
    exact absurd (decimal_isDigit hmem) (by decide)
  · rfl

theorem numeral?_decimal {bound n : Nat} (h : n < bound) : numeral? bound (decimal n) = some n := by
  simp [numeral?, withoutPlus_decimal, digitsValue?_decimal, Option.filter, h]

theorem word16?_decimal (n : UInt16) : word16? (decimal n.toNat) = some n := by
  rw [word16?, numeral?_decimal n.toNat_lt_size]
  simp

theorem word32?_decimal (n : UInt32) : word32? (decimal n.toNat) = some n := by
  rw [word32?, numeral?_decimal n.toNat_lt_size]
  simp

end SingleWriter.Text
