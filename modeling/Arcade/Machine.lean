import Arcade.Board.Frame

/-!
# `Arcade.Machine` — the board and its processors taking turns

A frame is divided into slices. In each slice main, sub and sound have a turn of as many cycles. A
step may take longer than what is left of a turn; the excess is charged to the processor's next
turn, so nothing drifts. A processor that is held takes no steps and owes nothing. Resets that came
up during a turn reach the interpreters at its end.

## Contents
- `Machine`, its clock `Machine.frameCycles` and the division of a frame `Machine.budgets`.
- `Machine.applyResets`, `Machine.syncLines`.
- `Machine.takeStep`, `Machine.spend`, `Machine.takeTurn`, `Machine.runFrame`.
-/

namespace Arcade

/-- A board with an interpreter for each processor: `σ` is the type of interpreters and `S` what is
in the place of the sound generator. -/
structure Machine (σ S : Type) where
  board : Board S
  interpreters : PerProcessor σ
  /-- The cycles of a turn. -/
  slice : Nat
  /-- What a processor may still spend, or owes if it is negative. -/
  credit : PerProcessor Int
  /-- How many cycles a processor has run. -/
  cyclesRun : PerProcessor UInt64

namespace Machine

variable {σ S : Type} [Interpreter σ] [SoundChip S]

/-- The number of cycles in a frame. -/
def frameCycles : Nat := 25344

/-- A machine that has not run yet. A turn has at least one cycle. -/
def assemble (board : Board S) (interpreters : PerProcessor σ) (slice : UInt32) : Machine σ S :=
  { board := board
    interpreters := interpreters
    slice := max slice.toNat 1
    credit := .replicate 0
    cyclesRun := .replicate 0 }

/-- How `total` cycles are divided into turns of `slice` cycles; the last turn may be shorter. -/
def budgets (slice total : Nat) : List Nat :=
  List.replicate (total / slice) slice ++ if total % slice = 0 then [] else [total % slice]

/-! ## Resets and interrupt lines -/

/-- Resets an interpreter if its processor has a reset coming. -/
def applyReset (m : Machine σ S) (p : Processor) : Machine σ S :=
  let (due, board) := m.board.takeReset p
  if due then
    { m with
      board := board.note (.processorReset p)
      interpreters := m.interpreters.modify p Interpreter.reset
      credit := m.credit.set p 0 }
  else { m with board := board }

/-- Resets every interpreter whose processor has a reset coming. -/
def applyResets (m : Machine σ S) : Machine σ S :=
  ((m.applyReset .main).applyReset .sub).applyReset .sound

/-- Shows an interpreter the level of its interrupt line. -/
def showLine (m : Machine σ S) (p : Processor) : Machine σ S :=
  { m with
    interpreters :=
      m.interpreters.modify p fun c => Interpreter.setIrqLine c (m.board.irqLine p) }

/-- Applies the resets that are due and shows every interpreter its interrupt line. -/
def syncLines (m : Machine σ S) : Machine σ S :=
  ((m.applyResets.showLine .main).showLine .sub).showLine .sound

/-! ## Turns -/

/-- Lets an interpreter take one step. A step takes at least one cycle. -/
def takeStep (m : Machine σ S) (p : Processor) : Machine σ S :=
  let c := Interpreter.setIrqLine (m.interpreters.get p) (m.board.irqLine p)
  let board := m.board.notePc p (Interpreter.pc c)
  let ((cost, c), board) := (Interpreter.step c).run (Board.bus p) board
  let cycles := max cost.toNat 1
  { m with
    board := board
    interpreters := m.interpreters.set p c
    credit := m.credit.modify p fun n => n - cycles
    cyclesRun := m.cyclesRun.modify p fun n => n + .ofNat cycles }

theorem credit_takeStep_lt (m : Machine σ S) (p : Processor) :
    (m.takeStep p).credit.get p < m.credit.get p := by
  simp only [takeStep, PerProcessor.get_modify_self]
  omega

/-- Lets an interpreter take steps until its credit is spent. -/
def spend (m : Machine σ S) (p : Processor) : Machine σ S :=
  if 0 < m.credit.get p then spend (m.takeStep p) p else m
termination_by (m.credit.get p).toNat
decreasing_by
  have := credit_takeStep_lt m p
  omega

/-- Gives a processor its turn. -/
def takeTurn (m : Machine σ S) (p : Processor) (budget : Nat) : Machine σ S :=
  if m.board.isHeld p then { m with credit := m.credit.set p 0 }
  else { m with credit := m.credit.modify p fun n => n + budget }.spend p

/-- Gives every processor its turn of one slice. -/
def runSlice (m : Machine σ S) (budget : Nat) : Machine σ S :=
  let m := (m.takeTurn .main budget).applyResets
  let m := (m.takeTurn .sub budget).applyResets
  (m.takeTurn .sound budget).applyResets

/-- Runs the processors for a frame. -/
def runFrame (m : Machine σ S) : Machine σ S :=
  (budgets m.slice frameCycles).foldl runSlice m.syncLines

end Machine

end Arcade
