/-!
# `Arcade.Sound` — what the board tells the sound generator

The first bytes of sound memory are also the registers of the sound generator, and the reset line of
the secondary processors silences it. What is fitted there is up to the host: `SoundChip` is all the
board asks for.

## Contents
- `SoundChip`, the class of things that can be fitted.
- `SoundCall` and its instance on lists: a recording of what the board says.
- `SoundRegisters`: keeps the registers and counts the writes.
-/

namespace Arcade

/-- Something that can take the place of the sound generator. -/
class SoundChip (S : Type) where
  /-- A byte is written to a register. -/
  writeRegister : S → UInt8 → UInt8 → S
  /-- The output is switched on or off. -/
  setEnabled : S → Bool → S

/-- The number of sound registers. -/
def soundRegisterCount : Nat := 64

/-- One thing the board says to the sound generator. -/
inductive SoundCall
  | write (register data : UInt8)
  | enable (on : Bool)
  deriving DecidableEq, Repr

/-- A recording of everything that was said, the latest first. -/
instance : SoundChip (List SoundCall) where
  writeRegister calls register data := .write register data :: calls
  setEnabled calls on := .enable on :: calls

/-- The registers of the sound generator. -/
structure SoundRegisters where
  registers : Vector UInt8 64
  enabled : Bool
  /-- How many writes there were. -/
  writes : UInt64
  deriving DecidableEq

namespace SoundRegisters

/-- Registers that hold zeros, with the output off. -/
def silent : SoundRegisters := ⟨Vector.replicate _ 0, false, 0⟩

instance : Inhabited SoundRegisters := ⟨silent⟩

/-- Writes a register; there is nothing beyond the last one. -/
def write (s : SoundRegisters) (register data : UInt8) : SoundRegisters :=
  if h : register.toNat < 64 then
    { s with registers := s.registers.set register.toNat data, writes := s.writes + 1 }
  else s

instance : SoundChip SoundRegisters where
  writeRegister := write
  setEnabled s on := { s with enabled := on }

end SoundRegisters

end Arcade
