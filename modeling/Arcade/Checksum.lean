/-!
# `Arcade.Checksum` — CRC-32

The checksum of a byte string is the remainder of a division by the polynomial of CRC-32/IEEE, bits
taken lowest first, with all bits of the register set before and inverted after.

## Contents
- `Checksum.shift` over one bit, `Checksum.absorb` over one byte, `Checksum.ofBytes` over a string.
-/

namespace Arcade

namespace Checksum

/-- The polynomial of CRC-32/IEEE with its bits in reflected order. -/
def polynomial : UInt32 := 0xEDB88320

/-- Divides one bit out of the register. -/
def shift (r : UInt32) : UInt32 :=
  if r &&& 1 = 1 then (r >>> 1) ^^^ polynomial else r >>> 1

/-- Divides a number of bits out of the register. -/
def shifts : Nat → UInt32 → UInt32
  | 0, r => r
  | n + 1, r => shifts n (shift r)

/-- Takes one byte into the register. -/
def absorb (r : UInt32) (b : UInt8) : UInt32 := shifts 8 (r ^^^ b.toUInt32)

/-- The CRC-32 of a byte string. -/
def ofBytes (bytes : List UInt8) : UInt32 := ~~~ (bytes.foldl absorb 0xFFFFFFFF)

/-- The CRC-32 of a text in UTF-8. -/
def ofText (s : String) : UInt32 := ofBytes s.toUTF8.toList

end Checksum

end Arcade
