import Arcade.Board.Frame
import Arcade.Json.Record

/-!
# `Arcade.Board.State` — the state of a board as it is saved

A saved state holds everything that changes while the board runs, except the programs, the wiring of
the chips and what the host keeps. The memories of a saved state are images labelled with a region;
a board only takes a state whose three images have the right labels and sizes.

## Contents
- `MemoryImage`, `BoardState`, `Board.state`.
- `ImageProblem`, `SharedRam.ofImages`, `Board.restore`.
- JSON: `toJson` and `ofJson?` for the state and each of its parts.
-/

namespace Arcade

/-- The contents of a memory under the tag of a region. -/
structure MemoryImage where
  region : Region
  bytes : List UInt8
  deriving DecidableEq, Repr

/-- The images of the three memories. -/
structure MemoryImages where
  tilemap : MemoryImage
  work : MemoryImage
  sound : MemoryImage
  deriving DecidableEq, Repr

/-- The image in the place of a region. -/
def MemoryImages.get (m : MemoryImages) : Region → MemoryImage
  | .tilemap => m.tilemap
  | .work => m.work
  | .sound => m.sound

/-- The images of memories. -/
def SharedRam.images (m : SharedRam) : MemoryImages :=
  { tilemap := ⟨.tilemap, m.bytes .tilemap⟩
    work := ⟨.work, m.bytes .work⟩
    sound := ⟨.sound, m.bytes .sound⟩ }

/-- The state of a board as it is saved. -/
structure BoardState where
  memory : MemoryImages
  controls : Controls
  chips : Pair ChipState
  inputs : Inputs
  outputs : Outputs
  mainWatchdog : Watchdog
  soundWatchdog : Watchdog
  starfield : Vector UInt8 4
  pendingReset : PerProcessor Bool
  diagnostics : Diagnostics
  deriving DecidableEq

/-- An image that does not fit its place. -/
structure ImageProblem where
  place : Region
  image : Region
  size : Nat
  deriving DecidableEq, Repr

/-- The wording of a problem with an image. -/
def ImageProblem.message (e : ImageProblem) : String :=
  s!"Invalid save state: {e.place.tag} holds {e.size} bytes of {e.image.tag}, " ++
    s!"expected {e.place.size}"

/-- The contents of an image, if it is of the right region and size. -/
def MemoryImage.fit (i : MemoryImage) (place : Region) :
    Except ImageProblem (Vector UInt8 place.size) :=
  if h : i.region = place ∧ i.bytes.length = place.size then
    .ok ⟨i.bytes.toArray, by simpa using h.2⟩
  else .error ⟨place, i.region, i.bytes.length⟩

/-- The memories of which these are the images, or the first image that does not fit. -/
def SharedRam.ofImages (m : MemoryImages) : Except ImageProblem SharedRam := do
  let tilemap ← m.tilemap.fit .tilemap
  let work ← m.work.fit .work
  let sound ← m.sound.fit .sound
  pure { tilemap, work, sound }

namespace Board

variable {S : Type}

/-- The state of a board. -/
def state (b : Board S) : BoardState :=
  { memory := b.memory.images
    controls := b.controls
    chips := b.io.chipStates
    inputs := b.io.inputs
    outputs := b.io.outputs
    mainWatchdog := b.mainWatchdog
    soundWatchdog := b.soundWatchdog
    starfield := b.starfield
    pendingReset := b.pendingReset
    diagnostics := b.diagnostics }

/-- Puts a board into a state. The sound generator is told whether its output is on. -/
def restore [SoundChip S] (b : Board S) (s : BoardState) : Except ImageProblem (Board S) := do
  let memory ← SharedRam.ofImages s.memory
  pure
    { b with
      memory := memory
      controls := s.controls
      io := b.io.restore s.chips s.inputs s.outputs
      mainWatchdog := s.mainWatchdog
      soundWatchdog := s.soundWatchdog
      starfield := s.starfield
      pendingReset := s.pendingReset
      diagnostics := s.diagnostics
      sound := SoundChip.setEnabled b.sound s.controls.soundOn }

end Board

/-! ## JSON of the parts -/

/-- Bytes as an array of numbers. -/
def Json.ofBytes (bytes : List UInt8) : Json := .array (bytes.map fun b => .nat b.toNat)

/-- Bytes from an array of numbers. -/
def Json.asBytes? (v : Json) : Option (List UInt8) := do
  (← v.asArray?).mapM Json.asUInt8?

/-- A latch as a JSON value. -/
def InterruptLatch.toJson (l : InterruptLatch) : Json :=
  .object [("enabled", .bool l.enabled), ("line", .bool l.line)]

/-- A latch from a JSON value. -/
def InterruptLatch.ofJson? (v : Json) : Option InterruptLatch := do
  let [some enabled, some line] ← v.fields? ["enabled", "line"] | none
  pure { enabled := ← enabled.asBool?, line := ← line.asBool? }

/-- A watchdog as a JSON value. -/
def Watchdog.toJson (w : Watchdog) : Json :=
  .object
    [("period", .nat w.period.toNat), ("elapsed", .nat w.elapsed.toNat),
      ("serviced", .bool w.serviced), ("expirations", .nat w.expirations.toNat)]

/-- A watchdog from a JSON value. One that does not say was not serviced. -/
def Watchdog.ofJson? (v : Json) : Option Watchdog := do
  let [some period, some elapsed, serviced, some expirations] ←
    v.fields? ["period", "elapsed", "serviced", "expirations"] | none
  pure
    { period := ← period.asUInt32?
      elapsed := ← elapsed.asUInt32?
      serviced := ← (match serviced with
        | none => some false
        | some s => s.asBool?)
      expirations := ← expirations.asUInt64? }

/-- Control registers as a JSON value. -/
def Controls.toJson (c : Controls) : Json :=
  .object
    [("latches", .array (c.latches.toList.map InterruptLatch.toJson)),
      ("secondaries_held", .bool c.secondariesHeld),
      ("io_held", .bool c.chipsHeld),
      ("sound_enabled", .bool c.soundOn)]

/-- Control registers from a JSON value. -/
def Controls.ofJson? (v : Json) : Option Controls := do
  let [some latches, some secondaries, some chips, some sound] ←
    v.fields? ["latches", "secondaries_held", "io_held", "sound_enabled"] | none
  let [main, sub, soundLatch] ← latches.exactly? 3 InterruptLatch.ofJson? | none
  pure
    { latches := ⟨main, sub, soundLatch⟩
      secondariesHeld := ← secondaries.asBool?
      chipsHeld := ← chips.asBool?
      soundOn := ← sound.asBool? }

/-- The state of a chip as a JSON value. -/
def ChipState.toJson (s : ChipState) : Json :=
  .object
    [("reset", .bool s.reset), ("irq_line", .bool s.irqLine), ("pulses", .nat s.pulses.toNat)]

/-- The state of a chip from a JSON value. -/
def ChipState.ofJson? (v : Json) : Option ChipState := do
  let [some reset, some irqLine, some pulses] ← v.fields? ["reset", "irq_line", "pulses"] | none
  pure
    { reset := ← reset.asBool?, irqLine := ← irqLine.asBool?, pulses := ← pulses.asUInt64? }

/-- The states of both chips as a JSON value. -/
def ChipState.pairToJson (p : Pair ChipState) : Json := .array (p.toList.map ChipState.toJson)

/-- The states of both chips from a JSON value. -/
def ChipState.pairOfJson? (v : Json) : Option (Pair ChipState) := do
  let [first, second] ← v.exactly? 2 ChipState.ofJson? | none
  pure ⟨first, second⟩

/-- Inputs as a JSON value. -/
def Inputs.toJson (i : Inputs) : Json := .object [("bytes", .ofBytes i.toList)]

/-- Inputs from a JSON value. -/
def Inputs.ofJson? (v : Json) : Option Inputs := do
  let [some bytes] ← v.fields? ["bytes"] | none
  Inputs.ofList? (← bytes.asBytes?)

/-- Two truth values from a JSON value. -/
def Json.asBools? (v : Json) : Option (Pair Bool) := do
  let [first, second] ← v.exactly? 2 Json.asBool? | none
  pure ⟨first, second⟩

/-- Two truth values as a JSON value. -/
def Json.ofBools (p : Pair Bool) : Json := .array (p.toList.map Json.bool)

/-- Outputs as a JSON value. -/
def Outputs.toJson (o : Outputs) : Json :=
  .object
    [("lamps", .ofBools o.lamps),
      ("coin_lockout", .bool o.coinLockout),
      ("coin_counters", .array (o.coinCounters.toList.map fun n => .nat n.toNat)),
      ("counter_inputs", .ofBools o.counterInputs)]

/-- Outputs from a JSON value. -/
def Outputs.ofJson? (v : Json) : Option Outputs := do
  let [some lamps, some lockout, some counters, some levels] ←
    v.fields? ["lamps", "coin_lockout", "coin_counters", "counter_inputs"] | none
  let [first, second] ← counters.exactly? 2 Json.asUInt32? | none
  pure
    { lamps := ← lamps.asBools?
      coinLockout := ← lockout.asBool?
      coinCounters := ⟨first, second⟩
      counterInputs := ← levels.asBools? }

/-- An image as a JSON value. -/
def MemoryImage.toJson (i : MemoryImage) : Json :=
  .object [("region", .string i.region.tag), ("bytes", .ofBytes i.bytes)]

/-- An image from a JSON value. -/
def MemoryImage.ofJson? (v : Json) : Option MemoryImage := do
  let [some region, some bytes] ← v.fields? ["region", "bytes"] | none
  pure { region := ← region.choice? Region.byTag, bytes := ← bytes.asBytes? }

/-- Images as a JSON value. -/
def MemoryImages.toJson (m : MemoryImages) : Json :=
  .object
    [("tilemap", m.tilemap.toJson), ("work", m.work.toJson), ("sound", m.sound.toJson)]

/-- Images from a JSON value. -/
def MemoryImages.ofJson? (v : Json) : Option MemoryImages := do
  let [some tilemap, some work, some sound] ← v.fields? ["tilemap", "work", "sound"] | none
  pure
    { tilemap := ← MemoryImage.ofJson? tilemap
      work := ← MemoryImage.ofJson? work
      sound := ← MemoryImage.ofJson? sound }

/-- Counts as a JSON value. -/
def Diagnostics.toJson (d : Diagnostics) : Json :=
  .object
    [("unmapped_reads", .nat d.unmappedReads.toNat),
      ("unmapped_writes", .nat d.unmappedWrites.toNat),
      ("rom_writes", .nat d.romWrites.toNat),
      ("watchdog_resets", .nat d.watchdogResets.toNat)]

/-- Counts from a JSON value. -/
def Diagnostics.ofJson? (v : Json) : Option Diagnostics := do
  let [some reads, some writes, some romWrites, some resets] ←
    v.fields? ["unmapped_reads", "unmapped_writes", "rom_writes", "watchdog_resets"] | none
  pure
    { unmappedReads := ← reads.asUInt64?
      unmappedWrites := ← writes.asUInt64?
      romWrites := ← romWrites.asUInt64?
      watchdogResets := ← resets.asUInt64? }

namespace BoardState

/-- The names of the fields in order. -/
def fieldNames : List String :=
  ["memory", "control", "io_chips", "inputs", "outputs", "main_watchdog", "sound_watchdog",
    "starfield", "pending_reset", "diagnostics"]

/-- A state as a JSON value. -/
def toJson (s : BoardState) : Json :=
  .object
    [("memory", s.memory.toJson),
      ("control", s.controls.toJson),
      ("io_chips", ChipState.pairToJson s.chips),
      ("inputs", s.inputs.toJson),
      ("outputs", s.outputs.toJson),
      ("main_watchdog", s.mainWatchdog.toJson),
      ("sound_watchdog", s.soundWatchdog.toJson),
      ("starfield", .ofBytes s.starfield.toList),
      ("pending_reset", .array (s.pendingReset.toList.map Json.bool)),
      ("diagnostics", s.diagnostics.toJson)]

/-- The star field registers from four bytes. -/
def starfieldOf? : List UInt8 → Option (Vector UInt8 4)
  | [a, b, c, d] => some #v[a, b, c, d]
  | _ => none

/-- A state from a JSON value. -/
def ofJson? (v : Json) : Option BoardState := do
  let [some memory, some controls, some chips, some inputs, some outputs, some mainWatchdog,
      some soundWatchdog, some starfield, some pending, some diagnostics] ←
    v.fields? fieldNames | none
  let [main, sub, sound] ← pending.exactly? 3 Json.asBool? | none
  pure
    { memory := ← MemoryImages.ofJson? memory
      controls := ← Controls.ofJson? controls
      chips := ← ChipState.pairOfJson? chips
      inputs := ← Inputs.ofJson? inputs
      outputs := ← Outputs.ofJson? outputs
      mainWatchdog := ← Watchdog.ofJson? mainWatchdog
      soundWatchdog := ← Watchdog.ofJson? soundWatchdog
      starfield := ← starfieldOf? (← starfield.asBytes?)
      pendingReset := ⟨main, sub, sound⟩
      diagnostics := ← Diagnostics.ofJson? diagnostics }

end BoardState

end Arcade
