import Arcade.Cabinet.Basic

/-!
# `Arcade.Proofs.Machine.Events` — what happens to the processors, in order

A cabinet that runs leaves a trace: each step of a processor, each reset of an interpreter, each reset
of the machine, and each time the reset line of sub and sound is asserted after having been released.
The trace of a function of the machine goes through the same machines as the function does, with the
same tests, and writes down what happens on the way. An edge of the reset line is looked for after
every single bus access, so a pulse within one turn leaves its mark.

## Contents
- `Event`, and which events call for a reset of a processor.
- `Board.edge`, `BusProgram.edges`: the reset line during the accesses of a step.
- `Machine.stepEvents`, `spendEvents`, `turnEvents`, `sliceEvents`, `frameEvents`.
- `Cabinet.Call`, `Cabinet.perform`, `Cabinet.run`, and `Cabinet.events`, the trace of a run.
-/

namespace Arcade

/-- Something that happens to the processors. -/
inductive Event
  /-- The interpreter of a processor is reset. -/
  | reset (p : Processor)
  /-- A processor takes a step; `held` is the level of its reset line at that time. -/
  | step (p : Processor) (held : Bool)
  /-- The reset line of sub and sound is asserted, and was not before. -/
  | asserted
  /-- The machine is reset. -/
  | machineReset
  deriving DecidableEq, Repr

/-- Whether an event is a reason to reset a processor. -/
def Event.disturbs (p : Processor) : Event → Bool
  | .reset _ => false
  | .step _ _ => false
  | .asserted => p != .main
  | .machineReset => true

/-! ## Bus accesses -/

section Access

variable {S : Type} [SoundChip S]

/-- The edge of the reset line of sub and sound between two boards. -/
def Board.edge (before after : Board S) : List Event :=
  if !before.controls.secondariesHeld && after.controls.secondariesHeld then [.asserted] else []

/-- The edges of the reset line while a processor makes its accesses. -/
def BusProgram.edges {α : Type} (p : Processor) : BusProgram α → Board S → List Event
  | .done _, _ => []
  | .read a next, b => b.edge (b.read p a).2 ++ (next (b.read p a).1).edges p (b.read p a).2
  | .write a data next, b => b.edge (b.write p a data) ++ next.edges p (b.write p a data)
  | .note n next, b => next.edges p (b.note n)

end Access

/-! ## The machine -/

namespace Machine

variable {σ S : Type} [Interpreter σ] [SoundChip S]

/-- The reset of an interpreter, if its processor has one coming. -/
def resetEvent (m : Machine σ S) (p : Processor) : List Event :=
  if (m.board.takeReset p).1 then [.reset p] else []

/-- The resets of all interpreters. -/
def resetEvents (m : Machine σ S) : List Event :=
  m.resetEvent .main ++ (m.applyReset .main).resetEvent .sub ++
    ((m.applyReset .main).applyReset .sub).resetEvent .sound

/-- A step of a processor, and what its accesses do to the reset line. -/
def stepEvents (m : Machine σ S) (p : Processor) : List Event :=
  let c := Interpreter.setIrqLine (m.interpreters.get p) (m.board.irqLine p)
  let board := m.board.notePc p (Interpreter.pc c)
  .step p (board.isHeld p) :: (Interpreter.step c).edges p board

/-- The steps of a processor until its credit is spent. -/
def spendEvents (m : Machine σ S) (p : Processor) : List Event :=
  if 0 < m.credit.get p then m.stepEvents p ++ spendEvents (m.takeStep p) p else []
termination_by (m.credit.get p).toNat
decreasing_by
  have := credit_takeStep_lt m p
  omega

/-- The turn of a processor. -/
def turnEvents (m : Machine σ S) (p : Processor) (budget : Nat) : List Event :=
  if m.board.isHeld p then []
  else { m with credit := m.credit.modify p fun n => n + budget }.spendEvents p

/-- A turn of every processor, each followed by the resets that came up. -/
def sliceEvents (m : Machine σ S) (budget : Nat) : List Event :=
  let main := m.takeTurn .main budget
  let sub := main.applyResets.takeTurn .sub budget
  let sound := sub.applyResets.takeTurn .sound budget
  m.turnEvents .main budget ++ main.resetEvents ++
    (main.applyResets.turnEvents .sub budget ++ sub.resetEvents) ++
    (sub.applyResets.turnEvents .sound budget ++ sound.resetEvents)

/-- One slice after the other. -/
def slicesEvents (m : Machine σ S) : List Nat → List Event
  | [] => []
  | budget :: budgets => m.sliceEvents budget ++ (m.runSlice budget).slicesEvents budgets

/-- The slices of a frame. -/
def frameEvents (m : Machine σ S) : List Event :=
  m.resetEvents ++ m.syncLines.slicesEvents (budgets m.slice frameCycles)

end Machine

/-! ## The cabinet -/

namespace Cabinet

variable {σ S : Type} [Interpreter σ] [SoundChip S]

/-- What a host asks of a running cabinet. -/
inductive Call
  | reset
  | stepFrame
  deriving DecidableEq, Repr

/-- Does what a host asks. -/
def perform (s : Cabinet σ S) : Call → Cabinet σ S
  | .reset => s.reset
  | .stepFrame => s.stepFrame

/-- The cabinet after a host has asked for one thing after the other. -/
def run (s : Cabinet σ S) (calls : List Call) : Cabinet σ S := calls.foldl perform s

/-- A machine whose board is about to change to another, maybe by a reset of the machine, and the resets
of interpreters that follow. -/
def changeEvents (m : Machine σ S) (board : Board S) (machineReset : Bool) : List Event :=
  m.board.edge board ++ (if machineReset then [.machineReset] else []) ++
    ({ m with board := board } : Machine σ S).resetEvents

/-- What happens while the cabinet does what a host asks. -/
def callEvents (s : Cabinet σ S) : Call → List Event
  | .reset => changeEvents s.machine s.machine.board.machineReset true
  | .stepFrame =>
    let m : Machine σ S := { s.machine with board := s.machine.board.beginFrame }
    let (sync, board) := m.runFrame.board.frameSync
    m.frameEvents ++ changeEvents m.runFrame board sync.watchdogReset.isSome

/-- What happens while the cabinet does one thing after the other. -/
def events (s : Cabinet σ S) : List Call → List Event
  | [] => []
  | call :: calls => s.callEvents call ++ (s.perform call).events calls

end Cabinet

end Arcade
