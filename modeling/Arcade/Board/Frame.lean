import Arcade.Board.Access

/-!
# `Arcade.Board.Frame` — what happens once per frame

At the end of a frame the interrupts are requested and the watchdogs tick. A watchdog that expires
resets the machine; if both expire the main one is named. The sound watchdog only ticks while the
sound processor is not held.

## Contents
- `Board.machineReset`, `Board.beginFrame`, `Board.frameSync` with its report `FrameSync`.
- `Snapshot` and `Board.snapshot`.
-/

namespace Arcade

/-- What happened at the end of a frame. -/
structure FrameSync where
  /-- Whose interrupt request was let through. -/
  irqs : PerProcessor Bool
  /-- Which I/O chips took their interrupt. -/
  chipPulses : Pair Bool
  /-- Whose watchdog reset the machine. -/
  watchdogReset : Option Processor
  deriving DecidableEq, Repr

/-- A frame in which nothing happened. -/
def FrameSync.quiet : FrameSync := ⟨.replicate false, .replicate false, none⟩

/-- A picture of the video hardware. -/
structure Snapshot where
  frame : UInt64
  tilemap : Vector UInt8 (Region.size .tilemap)
  sprites : List Sprite
  starfield : Vector UInt8 4
  deriving DecidableEq

namespace Board

variable {S : Type} [SoundChip S]

/-- Resets the machine. The interrupts of main and sound, the star field, the inputs and outputs and
the counts survive. -/
def machineReset (b : Board S) : Board S :=
  let before := b.controls.soundOn
  let (io, notices) := b.io.setReset true
  let b :=
    { b with
      memory := .blank
      controls := b.controls.machineReset
      io := io
      mainWatchdog := b.mainWatchdog.restart
      soundWatchdog := b.soundWatchdog.restart
      pendingReset := .replicate true }
  (b.switchSound before false).noteAll notices

/-- Begins a frame: the I/O chips lower their interrupt lines. -/
def beginFrame (b : Board S) : Board S := { b with io := b.io.clearInterrupts }

/-- Requests a processor's interrupt. -/
def requestInterrupt (b : Board S) (p : Processor) : Bool × Board S :=
  let (taken, controls) := b.controls.requestInterrupt p
  (taken, { b with controls := controls })

/-- Pulses the interrupt of the chip in a slot. -/
def pulseChip (b : Board S) (slot : Nat) : Bool × Board S :=
  let (taken, io) := b.io.pulse slot
  (taken, { b with io := io })

/-- Lets the watchdogs tick, and resets the machine if one expires. -/
def tickWatchdogs (b : Board S) : Option Processor × Board S :=
  let (mainExpired, mainWatchdog) := b.mainWatchdog.tick
  let (soundExpired, soundWatchdog) :=
    if b.isHeld .sound then (false, b.soundWatchdog) else b.soundWatchdog.tick
  let b := { b with mainWatchdog := mainWatchdog, soundWatchdog := soundWatchdog }
  let expired : Option Processor :=
    if mainExpired then some .main else if soundExpired then some .sound else none
  match expired with
  | none => (none, b)
  | some p =>
    let b :=
      { b with
        diagnostics :=
          { b.diagnostics with watchdogResets := b.diagnostics.watchdogResets + 1 } }
    (some p, (b.note (.watchdogExpired p b.mainWatchdog.period)).machineReset)

/-- Ends a frame. -/
def frameSync (b : Board S) : FrameSync × Board S :=
  let (main, b) := b.requestInterrupt .main
  let (first, b) := b.pulseChip 0
  let (second, b) := b.pulseChip 1
  let (sub, b) := b.requestInterrupt .sub
  let (sound, b) := b.requestInterrupt .sound
  let (reset, b) := b.tickWatchdogs
  (⟨⟨main, sub, sound⟩, ⟨first, second⟩, reset⟩, b)

/-- The picture as it stands, for a frame number. -/
def snapshot (b : Board S) (frame : UInt64) : Snapshot :=
  { frame := frame
    tilemap := b.memory.tilemap
    sprites := Sprite.decodeAll b.memory.shapeTable b.memory.placeTable b.memory.attributeTable
    starfield := b.starfield }

end Board

end Arcade
