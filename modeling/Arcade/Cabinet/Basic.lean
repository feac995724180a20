import Arcade.Config
import Arcade.Interpreter.Idle
import Arcade.Machine

/-!
# `Arcade.Cabinet.Basic` — a configured machine and its frames

A cabinet is a machine put together for a configuration, with the count of its frames and the
results of checking its programs. Programs are loaded under the names of mount points.

## Contents
- `Cabinet`, `Cabinet.assemble`, `Cabinet.idle`.
- `Cabinet.reset`, `Cabinet.stepFrame`.
- Mount points: `Cabinet.mountId`, `Cabinet.mount`, `Cabinet.unmount`.
-/

namespace Arcade

/-- A configured machine. -/
structure Cabinet (σ S : Type) where
  revision : Revision
  config : Config
  machine : Machine σ S
  /-- How many frames have been run. -/
  frame : UInt64
  lastSync : FrameSync
  /-- The program chips found to have other contents than the revision's. -/
  mismatches : PerProcessor (List RomMismatch)

/-- Why there is no cabinet for a configuration. -/
inductive CabinetProblem
  | config (problem : ConfigProblem)
  | ports (problem : PortProblem)
  deriving DecidableEq, Repr

/-- The wording of a problem. -/
def CabinetProblem.message : CabinetProblem → String
  | .config p => p.message
  | .ports p => s!"I/O chip configuration: {p.message}"

/-- Why a program cannot be mounted. -/
inductive MountProblem
  | noMountPoint (id : String)
  | romSize (problem : RomSizeProblem)
  deriving DecidableEq, Repr

/-- The wording of a problem. -/
def MountProblem.message : MountProblem → String
  | .noMountPoint id => s!"Invalid mount point: {id}"
  | .romSize p => p.message

/-- A place where a program can be mounted. -/
structure MountPoint where
  id : String
  name : String
  extensions : List String
  required : Bool
  deriving DecidableEq, Repr

namespace Cabinet

variable {σ S : Type} [Interpreter σ] [SoundChip S]

/-- Puts a machine together. Messages go to the given journal. -/
def assemble (config : Config) (interpreters : PerProcessor σ) (sound : S) (journal : Journal) :
    Except CabinetProblem (Cabinet σ S) :=
  match config.check with
  | .error p => .error (.config p)
  | .ok r =>
    let inputs := Inputs.atRest (config.dipAFor r) (config.dipBFor r)
    match Board.powerOn (config.layoutFor r) inputs config.watchdogFrames sound with
    | .error p => .error (.ports p)
    | .ok board =>
      let board := { board with journal := journal.note (.powerOn r.name r.description r.year) }
      .ok
        { revision := r
          config := config
          machine := .assemble board interpreters config.sliceCycles
          frame := 0
          lastSync := .quiet
          mismatches := .replicate [] }

/-- Interpreters that do nothing, each under the name of its processor. -/
def idleInterpreters : PerProcessor Idle := .tabulate fun p => .named p.name

/-- The board of a cabinet. -/
def board (s : Cabinet σ S) : Board S := s.machine.board

/-- Changes the board of a cabinet. -/
def mapBoard (s : Cabinet σ S) (f : Board S → Board S) : Cabinet σ S :=
  { s with machine := { s.machine with board := f s.machine.board } }

/-! ## Running -/

/-- Resets the machine from outside. -/
def reset (s : Cabinet σ S) : Cabinet σ S :=
  { s with
    machine := ({ s.machine with board := s.machine.board.machineReset } : Machine σ S).syncLines }

/-- Runs one frame. -/
def stepFrame (s : Cabinet σ S) : Cabinet σ S :=
  let m : Machine σ S := { s.machine with board := s.machine.board.beginFrame }
  let m := m.runFrame
  let (sync, board) := m.board.frameSync
  { s with
    machine := ({ m with board := board } : Machine σ S).syncLines
    frame := s.frame + 1
    lastSync := sync }

/-- The picture after the last frame. -/
def snapshot (s : Cabinet σ S) : Snapshot := s.board.snapshot s.frame

/-! ## Programs -/

/-- The name of the mount point of a processor's program. -/
def mountId : Processor → String
  | .main => "maincpu"
  | .sub => "sub"
  | .sound => "sub2"

/-- The processor whose program is mounted under a name. -/
def mountTarget? (id : String) : Option Processor :=
  Processor.all.find? fun p => mountId p = id

/-- The mount points of a cabinet. -/
def mountPoints (s : Cabinet σ S) : List MountPoint :=
  Processor.all.map fun p =>
    let chips := ", ".intercalate ((s.revision.chips.of p).map RomChip.name)
    { id := mountId p
      name := s!"{p.name} CPU program ({chips})"
      extensions := ["bin", "rom"]
      required := true }

/-- Mounts a program and checks its chips. -/
def mount (s : Cabinet σ S) (id : String) (image : List UInt8) :
    Except MountProblem (Cabinet σ S) :=
  match mountTarget? id with
  | none => .error (.noMountPoint id)
  | some p =>
    match s.board.loadRom p image with
    | .error e => .error (.romSize e)
    | .ok board =>
      let found := Rom.verify (s.revision.chips.of p) image
      .ok
        { s with
          machine := { s.machine with board := board.noteAll (found.map RomMismatch.notice) }
          mismatches := s.mismatches.set p found }

/-- Takes a program out. -/
def unmount (s : Cabinet σ S) (id : String) : Except MountProblem (Cabinet σ S) :=
  match mountTarget? id with
  | none => .error (.noMountPoint id)
  | some p =>
    .ok { s.mapBoard fun b => b.unloadRom p with mismatches := s.mismatches.set p [] }

/-- Whether a program is mounted under a name. -/
def isMounted (s : Cabinet σ S) (id : String) : Bool :=
  match mountTarget? id with
  | none => false
  | some p => s.board.loaded.get p

end Cabinet

end Arcade
