import Arcade.Memory.Region

/-!
# `Arcade.Memory.AddressMap` — where an address leads

Decoding depends on the processor, the address and the direction of the access, and on nothing else.
Control registers ignore the data: the state they switch to is an address line.

| main            |                                                             |
|-----------------|-------------------------------------------------------------|
| `0000-07FF`     | tile map                                                    |
| `0800-1FFF`     | work memory                                                 |
| `6000-67FF`     | sound memory, `A10` ignored                                 |
| `6800-6FFF`     | I/O chips, `A5-A4` select the slot, `A3-A0` the register    |
| `7000-7FFF` W   | interrupt, enabled by `A11` low                             |
| `7800-7FFF` R   | watchdog                                                    |
| `8000-8FFF` W   | reset of sub and sound, released by `A11` low               |
| `9000-9FFF` W   | reset of the I/O chips, released by `A11` low               |
| `A000-A7FF` W   | star field                                                  |
| `8000-FFFF`     | program ROM, the first chip also at `8000-9FFF`             |

| sub             |                                                             |
|-----------------|-------------------------------------------------------------|
| `0000-1FFF`     | as main                                                     |
| `6000-6FFF` W   | interrupt, enabled by `A0` high                             |
| `8000-FFFF`     | program ROM                                                 |

| sound           |                                                             |
|-----------------|-------------------------------------------------------------|
| `0000-1FFF`     | sound memory, repeated                                      |
| `2000-3FFF`     | watchdog                                                    |
| `4000-7FFF` W   | interrupt, enabled by `A13` low                             |
| `C000-FFFF`     | program ROM, repeated                                       |

## Contents
- `Access`, `Switch`, `Target`.
- The address lines that carry a state: `lineHigh`, `mainEnables`, `subEnables`, `soundEnables`,
  `releases`.
- `AddressMap.decode`.
-/

namespace Arcade

/-- The direction of an access. -/
inductive Access
  | read
  | write
  deriving DecidableEq, Repr

/-- A control register together with the state an access switches it to. -/
inductive Switch
  /-- The interrupt of a processor. -/
  | interrupt (p : Processor) (enable : Bool)
  /-- The reset line of sub and sound. -/
  | secondaries (release : Bool)
  /-- The reset line of the I/O chips. -/
  | ioChips (release : Bool)
  /-- A star field register, which takes the data. -/
  | starfield (register : Fin 4)
  deriving DecidableEq, Repr

/-- Where an access of a processor leads. -/
inductive Target (p : Processor)
  | ram (cell : Cell)
  | rom (offset : Fin p.romSize)
  | io (slot : Fin 4) (register : Fin 16)
  | watchdog
  | control (s : Switch)
  | unmapped
  deriving DecidableEq

namespace AddressMap

/-! ## Address lines -/

/-- Whether an address line is high. -/
def lineHigh (a : UInt16) (line : Nat) : Bool := a.toNat.testBit line

/-- Whether a write to main's interrupt register enables it. -/
def mainEnables (a : UInt16) : Bool := !lineHigh a 11

/-- Whether a write to sub's interrupt register enables it. -/
def subEnables (a : UInt16) : Bool := lineHigh a 0

/-- Whether a write to sound's interrupt register enables it. -/
def soundEnables (a : UInt16) : Bool := !lineHigh a 13

/-- Whether a write to a reset register releases the line. -/
def releases (a : UInt16) : Bool := !lineHigh a 11

/-! ## Decoding -/

/-- A cell of the tile map, for addresses that repeat it. -/
def tilemapCell (n : Nat) : Cell := ⟨.tilemap, n % 0x800, Nat.mod_lt _ (by decide)⟩

/-- A cell of work memory, for addresses that repeat it. -/
def workCell (n : Nat) : Cell := ⟨.work, n % 0x1800, Nat.mod_lt _ (by decide)⟩

/-- A cell of sound memory, for addresses that repeat it. -/
def soundCell (n : Nat) : Cell := ⟨.sound, n % 0x400, Nat.mod_lt _ (by decide)⟩

/-- The place of an address in a program of three chips. The chip is chosen by `A15-A13`; the first
answers twice. -/
def threeChipOffset (a : UInt16) : Fin 0x6000 :=
  ⟨(a.toNat / 0x2000 - 5) * 0x2000 + a.toNat % 0x2000, by
    have := a.toNat_lt
    omega⟩

/-- The place of an address in a program of one chip. -/
def oneChipOffset (a : UInt16) : Fin 0x2000 := ⟨a.toNat % 0x2000, Nat.mod_lt _ (by decide)⟩

/-- The chip slot an address selects. -/
def slotOf (a : UInt16) : Fin 4 := ⟨a.toNat / 16 % 4, Nat.mod_lt _ (by decide)⟩

/-- The chip register an address selects. -/
def registerOf (a : UInt16) : Fin 16 := ⟨a.toNat % 16, Nat.mod_lt _ (by decide)⟩

/-- The star field register an address selects. -/
def starfieldRegisterOf (a : UInt16) : Fin 4 := ⟨a.toNat % 4, Nat.mod_lt _ (by decide)⟩

/-- Where an access of main leads. -/
def decodeMain (a : UInt16) (access : Access) : Target .main :=
  let n := a.toNat
  if n < 0x800 then .ram (tilemapCell n)
  else if n < 0x2000 then .ram (workCell (n - 0x800))
  else if n < 0x6000 then .unmapped
  else if n < 0x6800 then .ram (soundCell n)
  else if n < 0x7000 then .io (slotOf a) (registerOf a)
  else
    match access with
    | .read => if n < 0x7800 then .unmapped else if n < 0x8000 then .watchdog
      else .rom (threeChipOffset a)
    | .write =>
      if n < 0x8000 then .control (.interrupt .main (mainEnables a))
      else if n < 0x9000 then .control (.secondaries (releases a))
      else if n < 0xA000 then .control (.ioChips (releases a))
      else if n < 0xA800 then .control (.starfield (starfieldRegisterOf a))
      else .rom (threeChipOffset a)

/-- Where an access of sub leads. -/
def decodeSub (a : UInt16) (access : Access) : Target .sub :=
  let n := a.toNat
  if n < 0x800 then .ram (tilemapCell n)
  else if n < 0x2000 then .ram (workCell (n - 0x800))
  else if n < 0x6000 then .unmapped
  else if n < 0x7000 then
    match access with
    | .read => .unmapped
    | .write => .control (.interrupt .sub (subEnables a))
  else if n < 0x8000 then .unmapped
  else .rom (threeChipOffset a)

/-- Where an access of sound leads. -/
def decodeSound (a : UInt16) (access : Access) : Target .sound :=
  let n := a.toNat
  if n < 0x2000 then .ram (soundCell n)
  else if n < 0x4000 then .watchdog
  else if n < 0x8000 then
    match access with
    | .read => .unmapped
    | .write => .control (.interrupt .sound (soundEnables a))
  else if n < 0xC000 then .unmapped
  else .rom (oneChipOffset a)

/-- Where an access leads. -/
def decode : (p : Processor) → UInt16 → Access → Target p
  | .main => decodeMain
  | .sub => decodeSub
  | .sound => decodeSound

end AddressMap

end Arcade
