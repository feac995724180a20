import Arcade.Io.Layout

/-!
# `Arcade.Io.Bank` — the two I/O chips with their inputs and outputs

The chips read the host's inputs and drive the outputs; the events this causes queue up until they
are taken. The address space has room for four slots, of which two are fitted. Only two address
lines reach a chip's read ports and one its write ports.

## Contents
- `IoSlot`, built only with every read port bound (`IoSlot.build`).
- `IoBank` with `read`, `write`, `setReset`, `pulse`, `clearInterrupts`, `configure`, `restore`.
-/

namespace Arcade

/-- A fitted chip. -/
structure IoSlot where
  spec : ChipSpec
  chip : IoChip InputGroup OutputLatch

/-- Fits a chip. All four read ports have to be bound. -/
def IoSlot.build (spec : ChipSpec) (wiring : Wiring) : Except PortProblem IoSlot := do
  let chip := IoChip.powerOn spec.part.label wiring.reads wiring.writes
  chip.requireBound [0, 1, 2, 3] []
  pure { spec, chip }

/-- The fitted chips and what they are connected to. -/
structure IoBank where
  slots : Pair IoSlot
  inputs : Inputs
  outputs : Outputs
  /-- The events that nobody has taken yet. -/
  events : Array OutputEvent

/-- Why a slot cannot be configured. -/
inductive SlotProblem
  | noSlot (slot : Nat)
  | ports (problem : PortProblem)
  deriving DecidableEq, Repr

namespace IoBank

/-- Fits the chips of a layout. -/
def ofLayout (layout : IoLayout) (inputs : Inputs) : Except PortProblem IoBank := do
  let build (spec : ChipSpec) := IoSlot.build spec (spec.kind.wiring layout.lamps)
  let first ← build layout.slots.fst
  let second ← build layout.slots.snd
  pure { slots := ⟨first, second⟩, inputs, outputs := .idle, events := #[] }

/-- Puts another chip into a slot. A failed attempt changes nothing. -/
def configure (b : IoBank) (slot : Nat) (spec : ChipSpec) (wiring : Wiring) :
    Except SlotProblem IoBank :=
  if h : slot < 2 then
    match IoSlot.build spec wiring with
    | .error p => .error (.ports p)
    | .ok s => .ok { b with slots := b.slots.set ⟨slot, h⟩ s }
  else .error (.noSlot slot)

/-- The chip in a slot. -/
def slot? (b : IoBank) (slot : Nat) : Option IoSlot := b.slots.get? slot

/-- Reads a register of a chip, and what there is to report. -/
def read (b : IoBank) (slot register : Nat) : UInt8 × List Notice :=
  match b.slot? slot with
  | some s => s.chip.read (register % 4) b.inputs.get
  | none => (IoChip.quiescent, [.emptySlotRead slot register])

/-- Writes a register of a chip, and what there is to report. -/
def write (b : IoBank) (slot register : Nat) (data : UInt8) : IoBank × List Notice :=
  match b.slot? slot with
  | some s =>
    match s.chip.sink (register % 2) data with
    | (some latch, notices) =>
      let (outputs, events) := b.outputs.drive latch data
      ({ b with outputs := outputs, events := b.events ++ events }, notices)
    | (none, notices) => (b, notices)
  | none => (b, [.emptySlotWrite slot register data])

/-- Changes every chip. -/
def mapChips (b : IoBank) (f : IoChip InputGroup OutputLatch → IoChip InputGroup OutputLatch) :
    IoBank :=
  { b with slots := b.slots.map fun s => { s with chip := f s.chip } }

/-- Sets the reset pins of both chips, and what there is to report. -/
def setReset (b : IoBank) (asserted : Bool) : IoBank × List Notice :=
  (b.mapChips fun c => c.setReset asserted,
    b.slots.fst.chip.resetNotices asserted ++ b.slots.snd.chip.resetNotices asserted)

/-- Whether the chip in a slot is in reset; an empty slot always is. -/
def isReset (b : IoBank) (slot : Nat) : Bool :=
  match b.slot? slot with
  | some s => s.chip.state.reset
  | none => true

/-- Whether the chip in a slot raises its interrupt line; an empty slot never does. -/
def irqLine (b : IoBank) (slot : Nat) : Bool :=
  match b.slot? slot with
  | some s => s.chip.state.irqLine
  | none => false

/-- Pulses the interrupt of the chip in a slot. The result says whether a chip took it. -/
def pulse (b : IoBank) (slot : Nat) : Bool × IoBank :=
  if h : slot < 2 then
    let s := b.slots.get ⟨slot, h⟩
    let (taken, chip) := s.chip.pulse
    (taken, { b with slots := b.slots.set ⟨slot, h⟩ { s with chip := chip } })
  else (false, b)

/-- Lowers the interrupt lines of both chips. -/
def clearInterrupts (b : IoBank) : IoBank := b.mapChips IoChip.clearInterrupt

/-- The events that have queued up, and the bank without them. -/
def takeEvents (b : IoBank) : List OutputEvent × IoBank :=
  (b.events.toList, { b with events := #[] })

/-- The states of both chips. -/
def chipStates (b : IoBank) : Pair ChipState := b.slots.map fun s => s.chip.state

/-- Replaces the states of the chips, the inputs and the outputs. Events that have queued up are
dropped. -/
def restore (b : IoBank) (chips : Pair ChipState) (inputs : Inputs) (outputs : Outputs) : IoBank :=
  { slots := b.slots.zipWith (fun s state => { s with chip := s.chip.restore state }) chips
    inputs := inputs
    outputs := outputs
    events := #[] }

end IoBank

end Arcade
