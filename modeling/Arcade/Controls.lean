import Arcade.InterruptLatch
import Arcade.Processor

/-!
# `Arcade.Controls` — interrupt latches and reset lines

Each processor has an interrupt latch. One reset line holds sub and sound together and silences the
sound while it does; another holds the I/O chips. Main is never held.

## Contents
- `Controls` with `switchInterrupt`, `holdSecondaries`, `holdChips`, `machineReset`.
-/

namespace Arcade

/-- The state of the control registers. -/
structure Controls where
  latches : PerProcessor InterruptLatch
  /-- Whether sub and sound are held in reset. -/
  secondariesHeld : Bool
  /-- Whether the I/O chips are held in reset. -/
  chipsHeld : Bool
  /-- Whether sound output is on. -/
  soundOn : Bool
  deriving DecidableEq, Repr

namespace Controls

/-- The controls at power-on: no interrupts, everything held, no sound. -/
def powerOn : Controls :=
  { latches := .replicate .powerOn, secondariesHeld := true, chipsHeld := true, soundOn := false }

instance : Inhabited Controls := ⟨powerOn⟩

/-- Whether a processor's interrupt line is raised. -/
def irqLine (c : Controls) (p : Processor) : Bool := (c.latches.get p).line

/-- Whether a processor is held in reset. -/
def isHeld (c : Controls) : Processor → Bool
  | .main => false
  | .sub => c.secondariesHeld
  | .sound => c.secondariesHeld

/-- Enables or disables a processor's interrupt. -/
def switchInterrupt (c : Controls) (p : Processor) (on : Bool) : Controls :=
  { c with latches := c.latches.modify p fun l => l.switch on }

/-- Requests a processor's interrupt. The result says whether the request was let through. -/
def requestInterrupt (c : Controls) (p : Processor) : Bool × Controls :=
  ((c.latches.get p).enabled, { c with latches := c.latches.modify p fun l => l.request.2 })

/-- Lowers a processor's interrupt line. -/
def acknowledgeInterrupt (c : Controls) (p : Processor) : Controls :=
  { c with latches := c.latches.modify p InterruptLatch.acknowledge }

/-- Holds or releases sub and sound. The result says whether the line was asserted just now. -/
def holdSecondaries (c : Controls) (asserted : Bool) : Bool × Controls :=
  (asserted && !c.secondariesHeld, { c with secondariesHeld := asserted, soundOn := !asserted })

/-- Holds or releases the I/O chips. The result says whether the line changed. -/
def holdChips (c : Controls) (asserted : Bool) : Bool × Controls :=
  (c.chipsHeld != asserted, { c with chipsHeld := asserted })

/-- What a reset of the machine does to the controls: the interrupts of main and sound stay. -/
def machineReset (c : Controls) : Controls :=
  { latches := c.latches.modify .sub fun l => l.switch false
    secondariesHeld := true
    chipsHeld := true
    soundOn := false }

end Controls

end Arcade
