import Arcade.Cabinet.Basic

/-!
# `Arcade.Report` — what a run prints about a cabinet

## Contents
- `Report.header`, `Report.chips`, `Report.frame`, `Report.totals`.
-/

namespace Arcade

namespace Report

variable {σ S : Type}

/-- The line of a switch bank and a line for each of its fields. -/
def bank (title : String) (fields : List DipField) (value : UInt8) : List String :=
  s!"{title} = {Hex.byte value}" ::
    (DipBank.describe fields value).map fun (name, label) => s!"  {Column.left 14 name} {label}"

/-- The line of the chip in a slot. -/
def chip (slot : Nat) (s : IoSlot) : String :=
  let (inputs, outputs) := s.chip.boundPorts
  s!"I/O {Hex.upper 4 (0x6800 + 0x10 * slot)}: {s.spec.part.label} " ++
    s!"{Column.left 11 s.spec.kind.name} {inputs} in, {outputs} out"

/-- A line for each chip. -/
def chips (b : IoBank) : List String := [chip 0 b.slots.fst, chip 1 b.slots.snd]

/-- What stands above the frames: the revision, the switches and the chips. -/
def header (s : Cabinet σ S) : List String :=
  let r := s.revision
  let io := s.machine.board.io
  [s!"{r.name} - {r.description} ({r.year})"] ++
    bank "DSW0" r.dips.fieldsA io.inputs.dipA ++
    bank "DSW1" r.dips.fieldsB io.inputs.dipB ++
    chips io

/-- A truth value as a digit. -/
def flag (b : Bool) : String := if b then "1" else "0"

/-- The line of a frame. -/
def frame (number : Nat) (sync : FrameSync) : String :=
  let watchdog :=
    match sync.watchdogReset with
    | none => ""
    | some p => s!" watchdog reset ({p.name})"
  s!"frame {Column.right 5 (toString number)}: irq main={flag sync.irqs.main} " ++
    s!"sub={flag sync.irqs.sub} sound={flag sync.irqs.sound} " ++
    s!"io={flag sync.chipPulses.fst}{flag sync.chipPulses.snd}{watchdog}"

/-- The line below the frames. -/
def totals (d : Diagnostics) : String :=
  s!"unmapped reads {d.unmappedReads.toNat} writes {d.unmappedWrites.toNat}, " ++
    s!"rom writes {d.romWrites.toNat}, watchdog resets {d.watchdogResets.toNat}"

end Report

end Arcade
