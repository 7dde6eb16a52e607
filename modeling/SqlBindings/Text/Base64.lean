/-!
Bytes written with sixty-four characters, of which each stands for six bits. Characters that are none
of them are passed over. Padding that completes a group of four ends the text.
-/

namespace SqlBindings.Text.Base64

/-- The six bits that a character stands for. -/
def sixBits? (c : Char) : Option Nat :=
  if 'A' ≤ c ∧ c ≤ 'Z' then some (c.toNat - 65)
  else if 'a' ≤ c ∧ c ≤ 'z' then some (c.toNat - 71)
  else if '0' ≤ c ∧ c ≤ '9' then some (c.toNat + 4)
  else if c = '+' then some 62
  else if c = '/' then some 63
  else none

/-- Reads on inside a group of four. `place` counts its characters so far, `carried` holds the bits of
the last one that have not been given, `pads` counts the padding since. -/
def decodeFrom (place carried pads : Nat) : List Char → Option (List UInt8)
  | [] => if place = 0 then some [] else none
  | c :: rest =>
    match sixBits? c with
    | none =>
      if c ≠ '=' ∨ place < 2 then decodeFrom place carried pads rest
      else if 4 ≤ place + pads + 1 then some []
      else decodeFrom place carried (pads + 1) rest
    | some bits =>
      match place with
      | 0 => decodeFrom 1 bits 0 rest
      | 1 => (decodeFrom 2 (bits % 16) 0 rest).map (UInt8.ofNat (carried * 4 + bits / 16) :: ·)
      | 2 => (decodeFrom 3 (bits % 4) 0 rest).map (UInt8.ofNat (carried * 16 + bits / 4) :: ·)
      | _ => (decodeFrom 0 0 0 rest).map (UInt8.ofNat (carried * 64 + bits) :: ·)

/-- The bytes of a text; none if a group is left incomplete. -/
def decode? (cs : List Char) : Option (List UInt8) := decodeFrom 0 0 0 cs

end SqlBindings.Text.Base64
