import Arcade.Board.Basic
import Arcade.Bus

/-!
# `Arcade.Board.Access` — bus accesses

An access leads where the address map says. A write into the first bytes of sound memory also
reaches the sound generator. An access that leads nowhere is counted and reported, and reads as
`FF`.

## Contents
- The effects of control registers: `Board.holdSecondaries`, `Board.holdChips`, `Board.control`.
- `Board.read`, `Board.write`, and `Board.bus` for interpreters.
-/

namespace Arcade

namespace Board

variable {S : Type} [SoundChip S]

/-- Services the watchdog of a processor. -/
def serviceWatchdog (b : Board S) : Processor → Board S
  | .main => { b with mainWatchdog := b.mainWatchdog.service }
  | .sub => b
  | .sound => { b with soundWatchdog := b.soundWatchdog.service }

/-- Tells the sound generator about its output if that has changed. -/
def switchSound (b : Board S) (before after : Bool) : Board S :=
  if before = after then b else { b with sound := SoundChip.setEnabled b.sound after }

/-- Holds or releases sub and sound. When the line is asserted both are reset, and the sound
watchdog starts again. -/
def holdSecondaries (b : Board S) (asserted : Bool) : Board S :=
  let before := b.controls.soundOn
  let (edge, controls) := b.controls.holdSecondaries asserted
  let b := { b with controls := controls }
  let b :=
    if edge then
      { b with
        pendingReset := (b.pendingReset.set .sub true).set .sound true
        soundWatchdog := b.soundWatchdog.restart }
    else b
  b.switchSound before (!asserted)

/-- Holds or releases the I/O chips, on behalf of a processor. -/
def holdChips (b : Board S) (p : Processor) (asserted : Bool) : Board S :=
  let (changed, controls) := b.controls.holdChips asserted
  let b := if changed then b.note (.chipResetSwitched (b.pcs.get p) (!asserted)) else b
  let (io, notices) := b.io.setReset asserted
  { b with controls := controls, io := io }.noteAll notices

/-- Enables or disables the interrupt of a processor. -/
def switchInterrupt (b : Board S) (p : Processor) (on : Bool) : Board S :=
  let b := if (b.controls.latches.get p).enabled = on then b else b.note (.interruptSwitched p on)
  { b with controls := b.controls.switchInterrupt p on }

/-- What a write of a processor to a control register does. -/
def control (b : Board S) (p : Processor) (s : Switch) (data : UInt8) : Board S :=
  match s with
  | .interrupt q enable => b.switchInterrupt q enable
  | .secondaries release => b.holdSecondaries (!release)
  | .ioChips release => b.holdChips p (!release)
  | .starfield register => { b with starfield := b.starfield.set register.val data register.isLt }

/-- Reads for a processor. -/
def read (b : Board S) (p : Processor) (a : UInt16) : UInt8 × Board S :=
  match AddressMap.decode p a .read with
  | .ram cell => (b.memory.read cell, b)
  | .rom offset => (b.roms.read p offset, b)
  | .io slot register =>
    let (v, notices) := b.io.read slot register
    (v, b.noteAll notices)
  | .watchdog => (openBus, b.serviceWatchdog p)
  | .control _ | .unmapped =>
    let b :=
      { b with
        diagnostics :=
          { b.diagnostics with unmappedReads := b.diagnostics.unmappedReads + 1 } }
    (openBus, b.note (.unmappedRead p (b.pcs.get p) a))

/-- Passes a write into sound memory on to the sound generator if it is a register there. -/
def soundWrite (b : Board S) (cell : Cell) (data : UInt8) : Board S :=
  if cell.region = .sound ∧ cell.offset.val < soundRegisterCount then
    { b with sound := SoundChip.writeRegister b.sound (UInt8.ofNat cell.offset.val) data }
  else b

/-- Writes for a processor. -/
def write (b : Board S) (p : Processor) (a : UInt16) (data : UInt8) : Board S :=
  match AddressMap.decode p a .write with
  | .ram cell => { b with memory := b.memory.write cell data }.soundWrite cell data
  | .rom _ =>
    let b :=
      { b with
        diagnostics := { b.diagnostics with romWrites := b.diagnostics.romWrites + 1 } }
    b.note (.romWrite p (b.pcs.get p) a data)
  | .io slot register =>
    let (io, notices) := b.io.write slot register data
    { b with io := io }.noteAll notices
  | .watchdog => b.serviceWatchdog p
  | .control s => b.control p s data
  | .unmapped =>
    let b :=
      { b with
        diagnostics :=
          { b.diagnostics with unmappedWrites := b.diagnostics.unmappedWrites + 1 } }
    b.note (.unmappedWrite p (b.pcs.get p) a data)

/-- The bus as a processor sees it. -/
def bus (p : Processor) : Bus (Board S) where
  read b a := b.read p a
  write b a data := b.write p a data
  note b n := b.note n

end Board

end Arcade
