import Arcade.Bus

/-!
# `Arcade.Interpreter.Scripted` — a processor that follows a script

Stands in for a processor with a list of bus accesses, one for each step, with a second list that is
done first when an interrupt comes. It keeps count of what it saw, so that two runs can be compared.

## Contents
- `ScriptOp`, `Script` (what it was given), `Scripted` (with its state) and its instance of
  `Interpreter`.
-/

namespace Arcade

/-- One step of a script. -/
inductive ScriptOp
  /-- Reads an address and keeps a record of it. -/
  | read (address : UInt16)
  | write (address : UInt16) (data : UInt8)
  /-- Copies a byte. -/
  | copy (source destination : UInt16)
  /-- Adds one to a byte. -/
  | increment (address : UInt16)
  | nothing
  deriving DecidableEq, Repr

/-- What a scripted processor is to do. -/
structure Script where
  program : List ScriptOp
  /-- Whether the program starts again when it is done. -/
  repeats : Bool
  /-- The cycles of the steps in turn, from the first again after the last. Where none are given,
  every step takes the usual ones. -/
  costs : Array UInt32
  /-- What comes first when the interrupt line rises. -/
  onIrq : List ScriptOp
  /-- The program counter of the first step after a reset. -/
  basePc : UInt16
  deriving Repr

/-- A scripted processor. -/
structure Scripted where
  script : Script
  pending : List ScriptOp
  sinceReset : Nat
  steps : Nat
  irq : Bool
  /-- Whether a rise of the interrupt line is still to be answered. -/
  entry : Bool
  resets : Nat
  edges : Nat
  readCount : Nat
  /-- A digest of everything read. -/
  hash : UInt32
  /-- The first addresses read and what was there, the latest first. -/
  reads : List (UInt16 × UInt8)
  deriving Repr

namespace Scripted

/-- A processor before its first reset. -/
def ofScript (script : Script) : Scripted :=
  { script := script
    pending := []
    sinceReset := 0
    steps := 0
    irq := false
    entry := false
    resets := 0
    edges := 0
    readCount := 0
    hash := 0
    reads := [] }

/-- How many reads are kept in full. -/
def keptReads : Nat := 24

/-- Starts the program again. -/
def reset (c : Scripted) : Scripted :=
  { c with pending := c.script.program, sinceReset := 0, entry := false, resets := c.resets + 1 }

/-- Takes a level of the interrupt line. -/
def setIrqLine (c : Scripted) (asserted : Bool) : Scripted :=
  if asserted && !c.irq then { c with edges := c.edges + 1, entry := true, irq := asserted }
  else { c with irq := asserted }

/-- Keeps a record of a read. -/
def recordRead (c : Scripted) (address : UInt16) (value : UInt8) : Scripted :=
  { c with
    readCount := c.readCount + 1
    hash := c.hash * 31 + address.toUInt32 * 257 + value.toUInt32
    reads := if c.reads.length < keptReads then (address, value) :: c.reads else c.reads }

/-- Forgets the reads that were kept in full. -/
def dropReads (c : Scripted) : Scripted := { c with reads := [] }

/-- The program counter. -/
def pc (c : Scripted) : UInt16 := c.script.basePc + UInt16.ofNat c.sinceReset

/-- What is pending once interrupts and repetition have been looked after. -/
def refill (c : Scripted) : Scripted :=
  let c :=
    if c.entry && c.irq then { c with entry := false, pending := c.script.onIrq ++ c.pending }
    else c
  if c.pending.isEmpty && c.script.repeats then { c with pending := c.script.program } else c

/-- The cycles of a step of a script that names none. -/
def usualCost : UInt32 := 4

/-- The cycles of the next step. The remainder lies within the costs unless there are none. -/
def nextCost (c : Scripted) : UInt32 :=
  c.script.costs.getD (c.steps % c.script.costs.size) usualCost

/-- The end of a step: its cycles, and the counters moved on. -/
def finish (c : Scripted) : UInt32 × Scripted :=
  (c.nextCost, { c with steps := c.steps + 1, sinceReset := c.sinceReset + 1 })

/-- Does the next thing of the script. -/
def step (c : Scripted) : BusProgram (UInt32 × Scripted) :=
  let c := c.refill
  match c.pending with
  | [] => .done c.finish
  | op :: rest =>
    let c := { c with pending := rest }
    match op with
    | .read address => .read address fun v => .done (c.recordRead address v).finish
    | .write address data => .write address data (.done c.finish)
    | .copy source destination =>
      .read source fun v => .write destination v (.done c.finish)
    | .increment address => .read address fun v => .write address (v + 1) (.done c.finish)
    | .nothing => .done c.finish

instance : Interpreter Scripted where
  reset := reset
  setIrqLine := setIrqLine
  pc := pc
  step := step

end Scripted

end Arcade
