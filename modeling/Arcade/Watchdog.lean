/-!
# `Arcade.Watchdog` — a counter of frames that passed without service

Software services the watchdog; every frame ticks it. A tick after a service only uses the service
up. Any other tick counts, and the tick that completes the period expires the watchdog and starts
the count again.

## Contents
- `Watchdog` with `ofPeriod`, `service`, `tick`, `restart`.
- `Watchdog.WellFormed`: the period is positive and the count stays below it.
-/

namespace Arcade

/-- A frame-driven watchdog. -/
structure Watchdog where
  /-- How many frames without service expire it. -/
  period : UInt32
  /-- How many such frames have been counted. -/
  elapsed : UInt32
  /-- Whether it was serviced since the last tick. -/
  serviced : Bool
  /-- How often it has expired. -/
  expirations : UInt64
  deriving DecidableEq, Repr

namespace Watchdog

/-- A fresh watchdog. A period of zero frames counts as one. -/
def ofPeriod (period : UInt32) : Watchdog :=
  { period := if period = 0 then 1 else period, elapsed := 0, serviced := false, expirations := 0 }

/-- Restarts the count and covers the next tick. -/
def service (w : Watchdog) : Watchdog := { w with elapsed := 0, serviced := true }

/-- Ends a frame. The result says whether the watchdog expired. -/
def tick (w : Watchdog) : Bool × Watchdog :=
  if w.serviced then
    (false, { w with serviced := false })
  else if w.period ≤ w.elapsed + 1 then
    (true, { w with elapsed := 0, expirations := w.expirations + 1 })
  else
    (false, { w with elapsed := w.elapsed + 1 })

/-- Restarts the count and forgets a service. -/
def restart (w : Watchdog) : Watchdog := { w with elapsed := 0, serviced := false }

/-- The results of a number of ticks in a row, and the watchdog after them. -/
def ticks : Nat → Watchdog → List Bool × Watchdog
  | 0, w => ([], w)
  | n + 1, w =>
    let (expired, w) := w.tick
    let (later, w) := ticks n w
    (expired :: later, w)

/-- The period is positive and the count is below it. -/
def WellFormed (w : Watchdog) : Prop := w.elapsed < w.period

theorem wellFormed_ofPeriod (period : UInt32) : (ofPeriod period).WellFormed := by
  unfold WellFormed ofPeriod
  split
  · decide
  · next h => exact UInt32.pos_iff_ne_zero.mpr h

theorem WellFormed.service {w : Watchdog} (h : w.WellFormed) : w.service.WellFormed := by
  unfold WellFormed at *
  exact UInt32.lt_of_le_of_lt (UInt32.zero_le) h

theorem WellFormed.restart {w : Watchdog} (h : w.WellFormed) : w.restart.WellFormed := by
  unfold WellFormed at *
  exact UInt32.lt_of_le_of_lt (UInt32.zero_le) h

theorem WellFormed.tick {w : Watchdog} (h : w.WellFormed) : w.tick.2.WellFormed := by
  unfold WellFormed Watchdog.tick at *
  split
  · exact h
  · split
    · exact UInt32.lt_of_le_of_lt (UInt32.zero_le) h
    · next hp => exact UInt32.not_le.mp hp

end Watchdog

end Arcade
