import Arcade.Bus

/-!
# `Arcade.Interpreter.Idle` — a processor that does nothing

After a reset it fetches its start address from the vector at `FFFE`, as the processor it stands in
for would, and from then on only passes the time.

## Contents
- `Idle` and its instance of `Interpreter`.
-/

namespace Arcade

/-- An interpreter that only fetches its start address. -/
structure Idle where
  /-- The name under which it reports. -/
  name : String
  pc : UInt16
  /-- Whether the start address is still to be fetched. -/
  needsVector : Bool
  irq : Bool
  /-- How often the interrupt line rose. -/
  irqEdges : UInt64
  deriving DecidableEq, Repr

namespace Idle

/-- An interpreter that has been reset. -/
def named (name : String) : Idle := ⟨name, 0, true, false, 0⟩

/-- An interpreter without a name that has already started. -/
def started : Idle := ⟨"", 0, false, false, 0⟩

/-- The number of cycles of a step. -/
def stepCycles : UInt32 := 2

/-- Resets the interpreter. The program counter stays until the next fetch. -/
def reset (c : Idle) : Idle := { c with needsVector := true, irq := false }

/-- Takes a level of the interrupt line and counts its rise. -/
def setIrqLine (c : Idle) (asserted : Bool) : Idle :=
  { c with
    irq := asserted
    irqEdges := if asserted && !c.irq then c.irqEdges + 1 else c.irqEdges }

/-- Fetches the start address if that is still to be done. -/
def step (c : Idle) : BusProgram (UInt32 × Idle) :=
  if c.needsVector then
    .read 0xFFFE fun hi =>
      .read 0xFFFF fun lo =>
        let pc := hi.toUInt16 <<< 8 ||| lo.toUInt16
        .note (.vectorFetched c.name pc) <|
          .done (stepCycles, { c with pc := pc, needsVector := false })
  else .done (stepCycles, c)

instance : Interpreter Idle where
  reset := reset
  setIrqLine := setIrqLine
  pc := Idle.pc
  step := step

end Idle

end Arcade
