/-!
# Bytes and their hexadecimal text

Raw data is a list of bytes. An octet is written as two lower-case hexadecimal digits.
-/

namespace AudioLink

/-- Frames, sample blocks and other raw data. -/
abbrev Bytes := List UInt8

namespace Hex

def digit (value : Nat) : Char :=
  if value < 10 then Char.ofNat (48 + value) else Char.ofNat (87 + value)

def pair (octet : UInt8) : List Char :=
  [digit (octet.toNat / 16), digit (octet.toNat % 16)]

/-- The value of a hexadecimal digit of either case. -/
def value? (c : Char) : Option Nat :=
  let code := c.toNat
  if 48 ≤ code ∧ code ≤ 57 then some (code - 48)
  else if 97 ≤ code ∧ code ≤ 102 then some (code - 87)
  else if 65 ≤ code ∧ code ≤ 70 then some (code - 55)
  else none

def octet? : List Char → Option UInt8
  | [high, low] =>
    if high = '+' then (value? low).map UInt8.ofNat
    else
      match value? high, value? low with
      | some h, some l => some (UInt8.ofNat (16 * h + l))
      | _, _ => none
  | _ => none

end Hex

end AudioLink
