/-!
# UTF-8

Bytes spell characters of one to four bytes, without overlong forms, surrogates or
code points above U+10FFFF. A fault says where the first character that cannot be
read begins: either so many bytes there can begin no character, or the bytes end
inside one.
-/

set_option autoImplicit false

namespace SingleWriter.Text.Utf8

inductive Fault where
  | invalid (length index : Nat)
  | incomplete (index : Nat)
  deriving DecidableEq

/-- The bytes that may follow a lead byte: the range of the second one, and how many more after it. -/
structure Lead where
  low : Nat
  high : Nat
  more : Nat
  /-- What the lead byte contributes to the code point. -/
  value : Nat

def lead? (a : Nat) : Option Lead :=
  if 0xC2 ≤ a ∧ a ≤ 0xDF then some ⟨0x80, 0xBF, 0, a - 0xC0⟩
  else if a = 0xE0 then some ⟨0xA0, 0xBF, 1, 0⟩
  else if a = 0xED then some ⟨0x80, 0x9F, 1, 0xD⟩
  else if 0xE1 ≤ a ∧ a ≤ 0xEF then some ⟨0x80, 0xBF, 1, a - 0xE0⟩
  else if a = 0xF0 then some ⟨0x90, 0xBF, 2, 0⟩
  else if 0xF1 ≤ a ∧ a ≤ 0xF3 then some ⟨0x80, 0xBF, 2, a - 0xF0⟩
  else if a = 0xF4 then some ⟨0x80, 0x8F, 2, 4⟩
  else none

def isTail (b : Nat) : Bool := 0x80 ≤ b && b ≤ 0xBF

def join (value b : Nat) : Nat := 64 * value + (b - 0x80)

def decodeFrom (index : Nat) : List UInt8 → Except Fault (List Char)
  | [] => .ok []
  | a :: rest =>
    if a.toNat < 0x80 then
      (decodeFrom (index + 1) rest).map (Char.ofNat a.toNat :: ·)
    else match lead? a.toNat with
      | none => .error (.invalid 1 index)
      | some l =>
        match rest with
        | [] => .error (.incomplete index)
        | b :: rest =>
          if b.toNat < l.low ∨ l.high < b.toNat then .error (.invalid 1 index)
          else if l.more = 0 then
            (decodeFrom (index + 2) rest).map (Char.ofNat (join l.value b.toNat) :: ·)
          else match rest with
            | [] => .error (.incomplete index)
            | c :: rest =>
              if !isTail c.toNat then .error (.invalid 2 index)
              else if l.more = 1 then
                (decodeFrom (index + 3) rest).map
                  (Char.ofNat (join (join l.value b.toNat) c.toNat) :: ·)
              else match rest with
                | [] => .error (.incomplete index)
                | d :: rest =>
                  if !isTail d.toNat then .error (.invalid 3 index)
                  else (decodeFrom (index + 4) rest).map
                    (Char.ofNat (join (join (join l.value b.toNat) c.toNat) d.toNat) :: ·)

def decode (bytes : List UInt8) : Except Fault String := (decodeFrom 0 bytes).map String.ofList

end SingleWriter.Text.Utf8
