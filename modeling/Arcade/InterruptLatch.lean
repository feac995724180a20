/-!
# `Arcade.InterruptLatch` — an interrupt request line behind an enable bit

A request reaches the processor only while the latch is enabled, and disabling drops a request that
is still pending. A request made while disabled is lost: nothing is queued.

## Contents
- `InterruptLatch` with `switch`, `request`, `acknowledge`.
- `InterruptLatch.Sound`: a raised line is enabled; every operation keeps it.
-/

namespace Arcade

/-- An interrupt line and the bit that gates it. -/
structure InterruptLatch where
  /-- Whether requests are let through. -/
  enabled : Bool
  /-- Whether the line to the processor is raised. -/
  line : Bool
  deriving DecidableEq, Repr, Inhabited

namespace InterruptLatch

/-- A latch at power-on: disabled, with its line low. -/
def powerOn : InterruptLatch := ⟨false, false⟩

/-- Enables or disables the latch; disabling lowers the line. -/
def switch (l : InterruptLatch) (on : Bool) : InterruptLatch := ⟨on, on && l.line⟩

/-- Requests an interrupt. The result says whether the request was let through. -/
def request (l : InterruptLatch) : Bool × InterruptLatch :=
  (l.enabled, { l with line := l.enabled || l.line })

/-- Lowers the line. -/
def acknowledge (l : InterruptLatch) : InterruptLatch := { l with line := false }

/-- A latch whose line is raised is enabled. -/
def Sound (l : InterruptLatch) : Prop := l.line = true → l.enabled = true

theorem sound_powerOn : powerOn.Sound := by simp [Sound, powerOn]

theorem Sound.switch {l : InterruptLatch} (on : Bool) : (l.switch on).Sound := by
  simp only [Sound, InterruptLatch.switch, Bool.and_eq_true]
  exact fun h => h.1

theorem Sound.request {l : InterruptLatch} (h : l.Sound) : l.request.2.Sound := by
  cases l with
  | mk e n => cases e <;> cases n <;> simp_all [Sound, InterruptLatch.request]

theorem Sound.acknowledge (l : InterruptLatch) : l.acknowledge.Sound := by
  simp [Sound, InterruptLatch.acknowledge]

end InterruptLatch

end Arcade
