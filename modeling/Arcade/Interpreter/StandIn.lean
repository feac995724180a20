import Arcade.Interpreter.Idle
import Arcade.Interpreter.Scripted

/-!
# `Arcade.Interpreter.StandIn` — a processor that only takes time, and a choice of processors

## Contents
- `FixedCost`: every step takes the same number of cycles and touches nothing.
- `StandIn`: any of the processors of this library, so that a board can mix them.
-/

namespace Arcade

/-- An interpreter whose steps take a fixed number of cycles. -/
structure FixedCost where
  cost : UInt32
  resets : UInt32
  steps : UInt64
  deriving DecidableEq, Repr

namespace FixedCost

/-- An interpreter that has done nothing yet. -/
def ofCost (cost : UInt32) : FixedCost := ⟨cost, 0, 0⟩

instance : Interpreter FixedCost where
  reset c := { c with resets := c.resets + 1 }
  setIrqLine c _ := c
  pc _ := 0
  step c := .done (c.cost, { c with steps := c.steps + 1 })

end FixedCost

/-- Any of the processors of this library. -/
inductive StandIn
  | idle (c : Idle)
  | fixed (c : FixedCost)
  | scripted (c : Scripted)

namespace StandIn

instance : Interpreter StandIn where
  reset
    | .idle c => .idle (Interpreter.reset c)
    | .fixed c => .fixed (Interpreter.reset c)
    | .scripted c => .scripted (Interpreter.reset c)
  setIrqLine
    | .idle c, on => .idle (Interpreter.setIrqLine c on)
    | .fixed c, on => .fixed (Interpreter.setIrqLine c on)
    | .scripted c, on => .scripted (Interpreter.setIrqLine c on)
  pc
    | .idle c => Interpreter.pc c
    | .fixed c => Interpreter.pc c
    | .scripted c => Interpreter.pc c
  step
    | .idle c => (Interpreter.step c).map fun (n, c) => (n, .idle c)
    | .fixed c => (Interpreter.step c).map fun (n, c) => (n, .fixed c)
    | .scripted c => (Interpreter.step c).map fun (n, c) => (n, .scripted c)

end StandIn

end Arcade
