/-!
# `Arcade.Text.Hex` — numbers in hexadecimal and in columns

Messages show addresses and data in upper case and checksums in lower case, padded with zeros to a
fixed width. Reports align their columns with blanks.

## Contents
- `Hex.upper`, `Hex.lower`: hexadecimal digits of at least a given number.
- `Column.left`, `Column.right`: text padded with blanks to a width.
-/

namespace Arcade

namespace Hex

/-- The hexadecimal digits of a number in lower case, at least `width` of them. -/
def lower (width n : Nat) : String :=
  String.ofList ((Nat.toDigits 16 n).leftpad width '0')

/-- The hexadecimal digits of a number in upper case, at least `width` of them. -/
def upper (width n : Nat) : String :=
  String.ofList (((Nat.toDigits 16 n).map Char.toUpper).leftpad width '0')

/-- A byte as two digits in upper case. -/
def byte (b : UInt8) : String := upper 2 b.toNat

/-- An address as four digits in upper case. -/
def address (a : UInt16) : String := upper 4 a.toNat

/-- A checksum as eight digits in lower case. -/
def checksum (c : UInt32) : String := lower 8 c.toNat

end Hex

namespace Column

/-- Text at the left of a column of at least `width` characters. -/
def left (width : Nat) (s : String) : String :=
  s ++ String.ofList (List.replicate (width - s.length) ' ')

/-- Text at the right of a column of at least `width` characters. -/
def right (width : Nat) (s : String) : String :=
  String.ofList (List.replicate (width - s.length) ' ') ++ s

end Column

end Arcade
