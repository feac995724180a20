import Arcade.CommandLine.Host
import Arcade.CommandLine.Options
import Arcade.Report
import Arcade.Cabinet.SaveState

/-!
# `Arcade.CommandLine.Run` — a run from the command line

A run puts a cabinet together, loads the programs it finds, runs frames and saves the state. It stops
at the first failure, which is told as a chain of messages, the most general first.

## Contents
- `Run`, the monad of a run.
- The parts of a run: `loadConfig`, `loadProgram`, `mountPrograms`, `runFrames`, `save`.
- `Run.all`: the whole run.
-/

namespace Arcade

/-- A run in surroundings `m`: a result, or a chain of messages. -/
abbrev Run (m : Type → Type) := ExceptT (List String) m

namespace Run

variable {m : Type → Type} [Monad m]

/-- The cabinet of a run: processors that do nothing, and sound registers. -/
abbrev Machinery := Cabinet Idle SoundRegisters

/-- Fails with a chain of messages. -/
def fail {α : Type} (chain : List String) : Run m α := throw chain

/-- Prints lines. -/
def printAll (host : Host m) (lines : List String) : Run m Unit :=
  lines.forM fun line => (host.print line : Run m Unit)

/-- The text of bytes in UTF-8, if that is what they are. -/
def decodeText (bytes : List UInt8) : Option String := String.fromUTF8? ⟨bytes.toArray⟩

/-- Reads a configuration file. -/
def loadConfig (host : Host m) (path : String) : Run m Config := do
  let chain (message : String) : List String := [s!"loading config {path}", message]
  match ← (host.read path : Run m _) with
  | .error _ => fail (chain "failed to read config")
  | .ok bytes =>
    match decodeText bytes with
    | none => fail (chain "failed to read config")
    | some text =>
      match Config.ofText text with
      | .error p => fail (chain p.message)
      | .ok c => pure c

/-- The configuration of a run: the file, and what the command line puts in its place. -/
def configure (host : Host m) (o : Options) : Run m Config := do
  let c ←
    match o.config with
    | none => pure Config.standard
    | some path => loadConfig host path
  pure
    { c with
      revision := o.revision.getD c.revision
      dipA := o.dipA <|> c.dipA
      dipB := o.dipB <|> c.dipB }

/-- The path of a file in a directory. -/
def joinPath (directory name : String) : String :=
  if directory.endsWith "/" then directory ++ name else s!"{directory}/{name}"

/-- The contents of chips in order, or nothing if one of them is missing. -/
def loadChips (host : Host m) (o : Options) (directory : String) (r : Revision) (p : Processor) :
    List RomChip → Run m (Option (List UInt8))
  | [] => pure (some [])
  | chip :: chips => do
    let path := joinPath directory chip.name
    if ← (host.present path : Run m Bool) then
      match ← (host.read path : Run m _) with
      | .error e => fail [s!"reading {path}", e]
      | .ok bytes =>
        if bytes.length ≠ Rom.chipSize then
          fail [s!"{path}: expected {Rom.chipSize} bytes, found {bytes.length}"]
        else
          match ← loadChips host o directory r p chips with
          | none => pure none
          | some rest => pure (some (bytes ++ rest))
    else
      if Level.warn.rank ≤ o.logLevel.rank then
        (host.log (Journal.line .warn .stubs
          s!"{r.name}: missing {path}, {p.name} program not loaded") : Run m Unit)
      pure none

/-- Loads the program of a processor if all its chips are there, and warns about chips with other
contents. -/
def mountProgram (host : Host m) (o : Options) (directory : String) (s : Machinery)
    (p : Processor) : Run m Machinery := do
  match ← loadChips host o directory s.revision p (s.revision.chips.of p) with
  | none => pure s
  | some image =>
    match s.mount (Cabinet.mountId p) image with
    | .error e => fail [e.message]
    | .ok s =>
      printAll host ((s.mismatches.get p).map fun x =>
        s!"warning: {x.chip} CRC {Hex.checksum x.actual}, expected {Hex.checksum x.expected}")
      pure s

/-- Writes the lines of the journal to the log. -/
def flushJournal (host : Host m) (s : Machinery) : Run m Machinery := do
  let (lines, journal) := s.board.journal.takeLines
  lines.forM fun line => (host.log line : Run m Unit)
  pure (s.mapBoard fun b => { b with journal := journal })

/-- Runs a number of frames, with a line for each unless the run is quiet. -/
def runFrames (host : Host m) (quiet : Bool) : Nat → Machinery → Run m Machinery
  | 0, s => pure s
  | n + 1, s => do
    let s ← flushJournal host s.stepFrame
    if !quiet then (host.print (Report.frame s.frame.toNat s.lastSync) : Run m Unit)
    runFrames host quiet n s

/-- Writes the save state. -/
def save (host : Host m) (path : String) (s : Machinery) : Run m Unit := do
  match ← (host.create path s.saveState.sortKeys.pretty : Run m _) with
  | .error e => fail [s!"creating {path}", e]
  | .ok () => pure ()

/-- A journal that lets messages of a level through. -/
def journalFor (level : Level) : Journal := { Journal.silent with overall := level }

/-- A whole run. -/
def all (host : Host m) (o : Options) : Run m Unit := do
  if o.list then printAll host (Revision.all.map Revision.listing)
  else
    let config ← configure host o
    match Cabinet.assemble config Cabinet.idleInterpreters SoundRegisters.silent
        (journalFor o.logLevel) with
    | .error p => fail [p.message]
    | .ok s =>
      let s ←
        match o.roms with
        | none => pure s
        | some directory => Processor.all.foldlM (mountProgram host o directory) s
      let s ← flushJournal host s
      if !o.quiet then printAll host (Report.header s)
      let s ← runFrames host o.quiet o.frames s
      if !o.quiet then (host.print (Report.totals s.board.diagnostics) : Run m Unit)
      save host o.save s

end Run

end Arcade
