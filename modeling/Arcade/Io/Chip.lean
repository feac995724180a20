import Arcade.Notice

/-!
# `Arcade.Io.Chip` — an I/O chip with bound ports

A chip has four read ports and two write ports. A read port may be bound to half of an input byte,
a write port to a latch; an unbound port reads as `F` and swallows what is written. In reset the
chip reads as `F`, drives nothing and takes no interrupt.

## Contents
- `Nibble`, `ReadPort`, `WritePort`.
- `IoChip` with `read`, `sink`, `setReset`, `pulse`, `clearInterrupt`, `restore`.
- `IoChip.requireBound` and `PortProblem`.
-/

namespace Arcade

/-- Half of a byte. -/
inductive Nibble
  | low
  | high
  deriving DecidableEq, Repr

/-- The value of half of a byte. -/
def Nibble.extract (n : Nibble) (byte : UInt8) : UInt8 :=
  match n with
  | .low => byte &&& 0x0F
  | .high => byte >>> 4

/-- What a read port is bound to. -/
inductive ReadPort (G : Type)
  | unbound
  | input (group : G) (nibble : Nibble)
  deriving DecidableEq, Repr

/-- Whether a read port is bound. -/
def ReadPort.isBound {G : Type} : ReadPort G → Bool
  | .unbound => false
  | .input .. => true

/-- What a write port is bound to. -/
inductive WritePort (L : Type)
  | unbound
  | drive (latch : L)
  deriving DecidableEq, Repr

/-- Whether a write port is bound. -/
def WritePort.isBound {L : Type} : WritePort L → Bool
  | .unbound => false
  | .drive _ => true

/-- The part of a chip's state that is saved. -/
structure ChipState where
  /-- Whether the chip is in reset. -/
  reset : Bool
  /-- Whether its interrupt line is raised. -/
  irqLine : Bool
  /-- How many interrupts it has taken. -/
  pulses : UInt64
  deriving DecidableEq, Repr, Inhabited

/-- A chip at power-on: in reset. -/
def ChipState.powerOn : ChipState := ⟨true, false, 0⟩

/-- An I/O chip: its label, its bindings and its state. -/
structure IoChip (G L : Type) where
  label : String
  reads : Vector (ReadPort G) 4
  writes : Vector (WritePort L) 2
  state : ChipState

/-- Why a chip's bindings are not good enough. -/
inductive PortProblem
  | unboundRead (port : Nat)
  | unboundWrite (port : Nat)
  | outOfRange (port : Nat)
  deriving DecidableEq, Repr

/-- The wording of a problem with bindings. -/
def PortProblem.message : PortProblem → String
  | .unboundRead port => s!"read port {port} is required but unbound"
  | .unboundWrite port => s!"write port {port} is required but unbound"
  | .outOfRange port => s!"port index {port} out of range"

namespace IoChip

variable {G L : Type}

/-- What an undriven port reads as. -/
def quiescent : UInt8 := 0x0F

/-- A chip at power-on. -/
def powerOn (label : String) (reads : Vector (ReadPort G) 4) (writes : Vector (WritePort L) 2) :
    IoChip G L :=
  { label, reads, writes, state := .powerOn }

/-- Demands that ports be bound; the first that is not is reported, read ports before write
ports. -/
def requireBound (c : IoChip G L) (reads writes : List Nat) : Except PortProblem Unit := do
  reads.forM fun port =>
    match c.reads[port]? with
    | none => .error (.outOfRange port)
    | some p => if p.isBound then .ok () else .error (.unboundRead port)
  writes.forM fun port =>
    match c.writes[port]? with
    | none => .error (.outOfRange port)
    | some p => if p.isBound then .ok () else .error (.unboundWrite port)

/-- The value of a read port, given the input bytes, and what there is to report. -/
def read (c : IoChip G L) (port : Nat) (sample : G → UInt8) : UInt8 × List Notice :=
  if c.state.reset then (quiescent, [])
  else
    match c.reads[port]? with
    | some (.input group nibble) => (nibble.extract (sample group), [])
    | some .unbound => (quiescent, [])
    | none => (quiescent, [.missingPortRead c.label port])

/-- The latch that a write to a port drives, if any, and what there is to report. -/
def sink (c : IoChip G L) (port : Nat) (data : UInt8) : Option L × List Notice :=
  if c.state.reset then (none, [.chipWriteInReset c.label data port])
  else
    match c.writes[port]? with
    | some (.drive latch) => (some latch, [])
    | some .unbound => (none, [])
    | none => (none, [.missingPortWrite c.label port])

/-- Asserts or releases the reset pin. Asserting it lowers the interrupt line. -/
def setReset (c : IoChip G L) (asserted : Bool) : IoChip G L :=
  { c with state := { c.state with reset := asserted, irqLine := !asserted && c.state.irqLine } }

/-- What there is to report when the reset pin is set. -/
def resetNotices (c : IoChip G L) (asserted : Bool) : List Notice :=
  if c.state.reset = asserted then [] else [.chipReset c.label asserted]

/-- Pulses the interrupt. The result says whether the chip took it. -/
def pulse (c : IoChip G L) : Bool × IoChip G L :=
  if c.state.reset then (false, c)
  else (true, { c with state := { c.state with irqLine := true, pulses := c.state.pulses + 1 } })

/-- Lowers the interrupt line. -/
def clearInterrupt (c : IoChip G L) : IoChip G L :=
  { c with state := { c.state with irqLine := false } }

/-- Replaces the state. -/
def restore (c : IoChip G L) (state : ChipState) : IoChip G L := { c with state := state }

/-- How many read ports and how many write ports are bound. -/
def boundPorts (c : IoChip G L) : Nat × Nat :=
  (c.reads.toList.countP ReadPort.isBound, c.writes.toList.countP WritePort.isBound)

end IoChip

end Arcade
