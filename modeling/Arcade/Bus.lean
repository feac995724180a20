import Arcade.Notice

/-!
# `Arcade.Bus` — what an interpreter of instructions is

An interpreter is a state with a reset, an interrupt line, a program counter and a step. A step is a
`BusProgram`: it says which bus accesses the step makes, each later one depending on what the
earlier ones read, and ends in a result. So an interpreter can do anything an instruction can do to
the board, and nothing else, and a step always ends.

## Contents
- `BusProgram` with `run` on a `Bus`, and its sequencing.
- `Interpreter`, the class of things that can take the place of a processor.
-/

namespace Arcade

/-- Bus accesses that end in a result. -/
inductive BusProgram (α : Type) : Type
  | done (a : α)
  | read (address : UInt16) (next : UInt8 → BusProgram α)
  | write (address : UInt16) (data : UInt8) (next : BusProgram α)
  /-- Reports something and goes on. -/
  | note (n : Notice) (next : BusProgram α)

/-- What serves the accesses. -/
structure Bus (β : Type) where
  read : β → UInt16 → UInt8 × β
  write : β → UInt16 → UInt8 → β
  note : β → Notice → β

namespace BusProgram

variable {α β γ : Type}

/-- Makes the accesses of a program. -/
def run (bus : Bus β) : BusProgram α → β → α × β
  | .done a, b => (a, b)
  | .read address next, b =>
    let (v, b) := bus.read b address
    run bus (next v) b
  | .write address data next, b => run bus next (bus.write b address data)
  | .note n next, b => run bus next (bus.note b n)

/-- Applies a function to the result. -/
def map (f : α → γ) : BusProgram α → BusProgram γ
  | .done a => .done (f a)
  | .read address next => .read address fun v => map f (next v)
  | .write address data next => .write address data (map f next)
  | .note n next => .note n (map f next)

theorem run_map (bus : Bus β) (f : α → γ) (p : BusProgram α) (b : β) :
    (p.map f).run bus b = (f (p.run bus b).1, (p.run bus b).2) := by
  induction p generalizing b with
  | done a => rfl
  | read address next ih => exact ih _ _
  | write address data next ih => exact ih _
  | note n next ih => exact ih _

theorem map_map (f : α → β) (g : β → γ) (p : BusProgram α) : (p.map f).map g = p.map fun a => g (f a) := by
  induction p with
  | done a => rfl
  | read address next ih => exact congrArg (BusProgram.read address) (funext ih)
  | write address data next ih => exact congrArg (BusProgram.write address data) ih
  | note n next ih => exact congrArg (BusProgram.note n) ih

theorem map_id (p : BusProgram α) : (p.map fun a => a) = p := by
  induction p with
  | done a => rfl
  | read address next ih => exact congrArg (BusProgram.read address) (funext ih)
  | write address data next ih => exact congrArg (BusProgram.write address data) ih
  | note n next ih => exact congrArg (BusProgram.note n) ih

end BusProgram

/-- Something that can take the place of a processor. -/
class Interpreter (σ : Type) where
  /-- What a reset does. -/
  reset : σ → σ
  /-- What a change of the interrupt line does. -/
  setIrqLine : σ → Bool → σ
  /-- The program counter. -/
  pc : σ → UInt16
  /-- One step: its accesses, then the number of cycles it took and the state after it. -/
  step : σ → BusProgram (UInt32 × σ)

end Arcade
