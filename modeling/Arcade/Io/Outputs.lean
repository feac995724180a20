import Arcade.Pair

/-!
# `Arcade.Io.Outputs` — lamps, the coin lockout and the coin counters

The outputs hang on two latches. A change of a lamp or of the lockout is an event, and so is every
count of a coin counter. A counter counts when its input rises; its input is low active in the
latch.

## Contents
- `OutputLatch`, `OutputEvent`.
- `Outputs` with `drive`.
-/

namespace Arcade

/-- A latch that a chip drives. -/
inductive OutputLatch
  /-- Both lamps, the lockout and the first counter. -/
  | lamps
  /-- The second counter. -/
  | counter
  deriving DecidableEq, Repr

/-- Something the outside of the machine notices. -/
inductive OutputEvent
  | lamp (index : Fin 2) (on : Bool)
  | coinLockout (on : Bool)
  | coinCounter (index : Fin 2)
  deriving DecidableEq, Repr

/-- The state of the outputs. -/
structure Outputs where
  lamps : Pair Bool
  coinLockout : Bool
  coinCounters : Pair UInt32
  /-- The level last seen at the input of each counter. -/
  counterInputs : Pair Bool
  deriving DecidableEq, Repr

namespace Outputs

/-- Everything off and nothing counted. -/
def idle : Outputs :=
  { lamps := .replicate false
    coinLockout := false
    coinCounters := .replicate 0
    counterInputs := .replicate false }

instance : Inhabited Outputs := ⟨idle⟩

/-- Switches a lamp. -/
def driveLamp (o : Outputs) (i : Fin 2) (on : Bool) : Outputs × List OutputEvent :=
  if o.lamps.get i = on then (o, [])
  else ({ o with lamps := o.lamps.set i on }, [.lamp i on])

/-- Switches the coin lockout. -/
def driveLockout (o : Outputs) (on : Bool) : Outputs × List OutputEvent :=
  if o.coinLockout = on then (o, [])
  else ({ o with coinLockout := on }, [.coinLockout on])

/-- Sets the input of a counter, which counts when it rises. -/
def driveCounter (o : Outputs) (i : Fin 2) (level : Bool) : Outputs × List OutputEvent :=
  if level && !o.counterInputs.get i then
    ({ o with
        coinCounters := o.coinCounters.set i (o.coinCounters.get i + 1)
        counterInputs := o.counterInputs.set i level }, [.coinCounter i])
  else ({ o with counterInputs := o.counterInputs.set i level }, [])

/-- Puts data into a latch: the new outputs, and the events in the order in which they happen. -/
def drive (o : Outputs) (latch : OutputLatch) (data : UInt8) : Outputs × List OutputEvent :=
  match latch with
  | .lamps =>
    let (o, first) := o.driveLamp 0 (data &&& 0x01 ≠ 0)
    let (o, second) := o.driveLamp 1 (data &&& 0x02 ≠ 0)
    let (o, lockout) := o.driveLockout (data &&& 0x04 ≠ 0)
    let (o, count) := o.driveCounter 0 (data &&& 0x08 = 0)
    (o, first ++ second ++ lockout ++ count)
  | .counter => o.driveCounter 1 (data &&& 0x01 = 0)

end Outputs

end Arcade
