import Arcade.Proofs.Board.Runs
import Arcade.Proofs.Machine.SyncLines

/-!
# `Arcade.Proofs.Machine.Runs` — a frame does to the board only what a running machine does

The turns of a frame are followed here once, to see that nothing happens to the board but the operations
of `Board.Runs`. What those leave alone, such as the programs, is then left alone by a frame.

## Contents
- `Machine.Ran`, and its lemmas from `applyReset` up to `runFrame`.
- `Machine.stepResult`, `takeStep_eq`: a step as one update of the machine.
- `Cabinet.stepFrame_ran`.
-/

namespace Arcade

namespace Machine

variable {σ S : Type} [SoundChip S] {m n k : Machine σ S}

/-- From one machine to another only what a running machine does has been done to the board, and turns
are as long as they were. -/
structure Ran (m n : Machine σ S) : Prop where
  board : m.board.Runs n.board
  slice : n.slice = m.slice

theorem Ran.trans (h : m.Ran n) (h' : n.Ran k) : m.Ran k :=
  ⟨h.board.trans h'.board, h'.slice.trans h.slice⟩

theorem withBoard_ran (m : Machine σ S) {b : Board S} (h : m.board.Runs b) : m.Ran { m with board := b } :=
  ⟨h, rfl⟩

variable [Interpreter σ]

/-! ## Resets and interrupt lines -/

theorem applyReset_ran (m : Machine σ S) (p : Processor) : m.Ran (m.applyReset p) := by
  have htaken : m.board.Runs (m.board.takeReset p).2 := Board.Runs.refl.perform (.takeReset p) rfl
  unfold applyReset
  dsimp only
  split
  · exact ⟨htaken.note _, rfl⟩
  · exact ⟨htaken, rfl⟩

theorem applyResets_ran (m : Machine σ S) : m.Ran m.applyResets :=
  ((m.applyReset_ran .main).trans (applyReset_ran _ .sub)).trans (applyReset_ran _ .sound)

theorem syncLines_ran (m : Machine σ S) : m.Ran m.syncLines :=
  -- showing a line touches the interpreters alone
  ⟨m.applyResets_ran.board, m.applyResets_ran.slice⟩

/-! ## Turns -/

/-- The result of a processor's step, and the board after its accesses. -/
def stepResult (m : Machine σ S) (p : Processor) : (UInt32 × σ) × Board S :=
  let c := Interpreter.setIrqLine (m.interpreters.get p) (m.board.irqLine p)
  (Interpreter.step c).run (Board.bus p) (m.board.notePc p (Interpreter.pc c))

theorem takeStep_eq (m : Machine σ S) (p : Processor) :
    m.takeStep p =
      { m with
        board := (m.stepResult p).2
        interpreters := m.interpreters.set p (m.stepResult p).1.2
        credit := m.credit.modify p fun n => n - (max (m.stepResult p).1.1.toNat 1 : Nat)
        cyclesRun := m.cyclesRun.modify p fun n => n + .ofNat (max (m.stepResult p).1.1.toNat 1) } := rfl

theorem takeStep_ran (m : Machine σ S) (p : Processor) : m.Ran (m.takeStep p) := by
  have hnoted (pc : UInt16) : m.board.Runs (m.board.notePc p pc) := Board.Runs.refl.perform (.notePc p pc) rfl
  exact ⟨(hnoted _).trans (Board.runs_program _ p _), rfl⟩

theorem spend_ran (m : Machine σ S) (p : Processor) : m.Ran (m.spend p) := by
  fun_induction spend m p with
  | case1 m _ ih => exact (m.takeStep_ran p).trans ih
  | case2 => exact ⟨.refl, rfl⟩

theorem takeTurn_ran (m : Machine σ S) (p : Processor) (budget : Nat) : m.Ran (m.takeTurn p budget) := by
  unfold takeTurn
  split
  · exact ⟨.refl, rfl⟩
  · have hspent := spend_ran { m with credit := m.credit.modify p fun n => n + budget } p
    exact ⟨hspent.board, hspent.slice⟩

theorem runSlice_ran (m : Machine σ S) (budget : Nat) : m.Ran (m.runSlice budget) := by
  have turn (m : Machine σ S) (p : Processor) := (m.takeTurn_ran p budget).trans (applyResets_ran _)
  exact ((turn m .main).trans (turn _ .sub)).trans (turn _ .sound)

theorem slices_ran (m : Machine σ S) (budgets : List Nat) : m.Ran (budgets.foldl runSlice m) := by
  induction budgets generalizing m with
  | nil => exact ⟨.refl, rfl⟩
  | cons budget budgets ih => exact (m.runSlice_ran budget).trans (ih (m.runSlice budget))

theorem runFrame_ran (m : Machine σ S) : m.Ran m.runFrame := m.syncLines_ran.trans (slices_ran _ _)

end Machine

/-- **A frame does to the board only what a running machine does**, and leaves the length of turns as it
is. -/
theorem Cabinet.stepFrame_ran {σ S : Type} [Interpreter σ] [SoundChip S] (s : Cabinet σ S) :
    s.machine.Ran s.stepFrame.machine := by
  have hbegin := s.machine.withBoard_ran (Board.Runs.refl.perform .beginFrame rfl)
  have hend (m : Machine σ S) := m.withBoard_ran (Board.Runs.refl.perform .frameSync rfl)
  exact (hbegin.trans (Machine.runFrame_ran _)).trans ((hend _).trans (Machine.syncLines_ran _))

end Arcade
