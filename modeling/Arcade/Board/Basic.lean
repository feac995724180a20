import Arcade.Controls
import Arcade.Io.Bank
import Arcade.Memory.AddressMap
import Arcade.Memory.SharedRam
import Arcade.Memory.Sprite
import Arcade.Sound
import Arcade.Watchdog

/-!
# `Arcade.Board.Basic` — the board and what it is made of

The board joins the shared memories, the program ROMs, the control registers, the I/O chips, the
watchdogs and the sound generator. What takes the place of the sound generator is a parameter.

## Contents
- `ProgramRoms`, `Diagnostics`, `Board`.
- `Board.powerOn`, and loading and unloading programs.
- `Board.configureSlot`, `Board.takeReset`, `Board.notePc` and the like: what the host and the
  scheduler ask of the board.
-/

namespace Arcade

/-- What nothing on the bus reads as. -/
def openBus : UInt8 := 0xFF

/-- The contents of the program ROMs. -/
structure ProgramRoms where
  main : Vector UInt8 (Processor.romSize .main)
  sub : Vector UInt8 (Processor.romSize .sub)
  sound : Vector UInt8 (Processor.romSize .sound)

namespace ProgramRoms

/-- Empty sockets. -/
def empty : ProgramRoms :=
  { main := Vector.replicate _ openBus
    sub := Vector.replicate _ openBus
    sound := Vector.replicate _ openBus }

/-- The program of a processor. -/
def get (r : ProgramRoms) : (p : Processor) → Vector UInt8 p.romSize
  | .main => r.main
  | .sub => r.sub
  | .sound => r.sound

/-- Replaces the program of a processor. -/
def set (r : ProgramRoms) : (p : Processor) → Vector UInt8 p.romSize → ProgramRoms
  | .main, v => { r with main := v }
  | .sub, v => { r with sub := v }
  | .sound, v => { r with sound := v }

/-- The byte of a program at an offset. -/
def read (r : ProgramRoms) : (p : Processor) → Fin p.romSize → UInt8
  | .main, i => r.main[i]
  | .sub, i => r.sub[i]
  | .sound, i => r.sound[i]

end ProgramRoms

/-- Counts of accesses that lead nowhere, and of resets by a watchdog. -/
structure Diagnostics where
  unmappedReads : UInt64
  unmappedWrites : UInt64
  romWrites : UInt64
  watchdogResets : UInt64
  deriving DecidableEq, Repr, Inhabited

/-- Nothing has been counted. -/
def Diagnostics.zero : Diagnostics := ⟨0, 0, 0, 0⟩

/-- The board, with an `S` in the place of the sound generator. -/
structure Board (S : Type) where
  memory : SharedRam
  roms : ProgramRoms
  /-- Whether a program has been loaded. -/
  loaded : PerProcessor Bool
  controls : Controls
  io : IoBank
  mainWatchdog : Watchdog
  soundWatchdog : Watchdog
  starfield : Vector UInt8 4
  sound : S
  /-- Whether a processor has a reset coming that its interpreter has not seen. -/
  pendingReset : PerProcessor Bool
  /-- Where each processor was when it last took a step. -/
  pcs : PerProcessor UInt16
  diagnostics : Diagnostics
  journal : Journal

/-- Why a program cannot be loaded. -/
structure RomSizeProblem where
  processor : Processor
  actual : Nat
  deriving DecidableEq, Repr

/-- The wording of a problem with a program. -/
def RomSizeProblem.message (e : RomSizeProblem) : String :=
  s!"{e.processor.name} program ROM must be {e.processor.romSize} bytes, got {e.actual}"

/-- The wording of a problem with a slot. -/
def SlotProblem.message : SlotProblem → String
  | .noSlot slot => s!"No I/O chip slot {slot}"
  | .ports p => s!"I/O chip configuration: {p.message}"

namespace Board

variable {S : Type}

/-- A board that has just been switched on, with the given chips fitted and inputs set. -/
def powerOn (layout : IoLayout) (inputs : Inputs) (watchdogFrames : UInt32) (sound : S) :
    Except PortProblem (Board S) := do
  let io ← IoBank.ofLayout layout inputs
  pure
    { memory := .blank
      roms := .empty
      loaded := .replicate false
      controls := .powerOn
      io := io
      mainWatchdog := .ofPeriod watchdogFrames
      soundWatchdog := .ofPeriod watchdogFrames
      starfield := Vector.replicate _ 0
      sound := sound
      pendingReset := .replicate true
      pcs := .replicate 0
      diagnostics := .zero
      journal := .silent }

/-- Reports something. -/
def note (b : Board S) (n : Notice) : Board S := { b with journal := b.journal.note n }

/-- Reports several things. -/
def noteAll (b : Board S) (ns : List Notice) : Board S :=
  { b with journal := b.journal.noteAll ns }

/-! ## Programs -/

/-- Loads a program, which has to fill its ROMs. -/
def loadRom (b : Board S) (p : Processor) (image : List UInt8) : Except RomSizeProblem (Board S) :=
  if h : image.length = p.romSize then
    .ok
      { b with
        roms := b.roms.set p ⟨image.toArray, by simpa using h⟩
        loaded := b.loaded.set p true }
  else .error ⟨p, image.length⟩

/-- Takes a program out. -/
def unloadRom (b : Board S) (p : Processor) : Board S :=
  { b with roms := b.roms.set p (Vector.replicate _ openBus), loaded := b.loaded.set p false }

/-! ## For the scheduler -/

/-- Whether a processor is held in reset. -/
def isHeld (b : Board S) (p : Processor) : Bool := b.controls.isHeld p

/-- Whether a processor's interrupt line is raised. -/
def irqLine (b : Board S) (p : Processor) : Bool := b.controls.irqLine p

/-- Whether a reset of a processor is due; it is no longer due afterwards. -/
def takeReset (b : Board S) (p : Processor) : Bool × Board S :=
  (b.pendingReset.get p, { b with pendingReset := b.pendingReset.set p false })

/-- Keeps note of where a processor is. -/
def notePc (b : Board S) (p : Processor) (pc : UInt16) : Board S :=
  { b with pcs := b.pcs.set p pc }

/-- The watchdog of a processor; sub has none. -/
def watchdog? (b : Board S) : Processor → Option Watchdog
  | .main => some b.mainWatchdog
  | .sub => none
  | .sound => some b.soundWatchdog

/-! ## For the host -/

/-- Changes the host's inputs. -/
def mapInputs (b : Board S) (f : Inputs → Inputs) : Board S :=
  { b with io := { b.io with inputs := f b.io.inputs } }

/-- The output events that have queued up, and the board without them. -/
def takeEvents (b : Board S) : List OutputEvent × Board S :=
  (b.io.events.toList, { b with io := b.io.takeEvents.2 })

/-- Puts another chip into a slot; its reset pin follows the reset line. -/
def configureSlot (b : Board S) (slot : Nat) (spec : ChipSpec) (wiring : Wiring) :
    Except SlotProblem (Board S) :=
  match b.io.configure slot spec wiring with
  | .error p => .error p
  | .ok io =>
    let (io, notices) := io.setReset b.controls.chipsHeld
    .ok ({ b with io := io }.noteAll notices)

end Board

end Arcade
