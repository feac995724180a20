import Arcade.Checksum
import Arcade.Notice

/-!
# `Arcade.Rom` — ROM chips and the check of their contents

A program is spread over chips of 8 KiB. An image is checked chip by chip against the known
checksums: chips beyond the end of the image are not checked, and a short last piece is checked as
it is.

## Contents
- `RomChip`, `RomMismatch`.
- `Rom.verify`.
-/

namespace Arcade

/-- A ROM chip and the checksum of its contents. -/
structure RomChip where
  name : String
  checksum : UInt32
  deriving DecidableEq, Repr

/-- A chip whose contents have another checksum. -/
structure RomMismatch where
  chip : String
  expected : UInt32
  actual : UInt32
  deriving DecidableEq, Repr

/-- The notice about a mismatch. -/
def RomMismatch.notice (m : RomMismatch) : Notice := .checksumMismatch m.chip m.actual m.expected

namespace Rom

/-- The number of bytes of a chip. -/
def chipSize : Nat := 0x2000

/-- The mismatch of one chip, if its contents are not the known ones. -/
def check (chip : RomChip) (contents : List UInt8) : List RomMismatch :=
  let actual := Checksum.ofBytes contents
  if actual = chip.checksum then [] else [⟨chip.name, chip.checksum, actual⟩]

/-- Checks the chips that an image reaches, in order. -/
def verify : List RomChip → List UInt8 → List RomMismatch
  | [], _ => []
  | _ :: _, [] => []
  | chip :: chips, b :: image =>
    check chip ((b :: image).take chipSize) ++ verify chips ((b :: image).drop chipSize)

@[simp] theorem verify_nil (chips : List RomChip) : verify chips [] = [] := by
  cases chips <;> rfl

end Rom

end Arcade
