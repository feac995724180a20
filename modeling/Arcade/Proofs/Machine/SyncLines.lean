import Arcade.Cabinet.Basic

/-!
# `Arcade.Proofs.Machine.SyncLines` — what reaches the interpreters when the lines are synchronised

Between turns, and whenever a host has changed the machine, every interpreter whose processor has a reset
coming is reset, once, and afterwards every interpreter is shown the level of its interrupt line. Nothing
else happens to an interpreter, and to the board nothing but that no reset is due any longer.

## Contents
- `Machine.restarted`: an interpreter once the reset that was coming has reached it.
- `applyResets_eq`, `syncLines_eq`: both steps as one update of the machine.
- `syncLines_of_not_due`: what is left of that if no reset is due.
-/

namespace Arcade

namespace Machine

variable {σ S : Type} [Interpreter σ]

/-- The interpreter of a processor, reset if the processor has a reset coming. -/
def restarted (m : Machine σ S) (p : Processor) : σ :=
  if m.board.pendingReset.get p then Interpreter.reset (m.interpreters.get p) else m.interpreters.get p

/-- What a processor may still spend, which is nothing if it has a reset coming. -/
def restartedCredit (m : Machine σ S) (p : Processor) : Int :=
  if m.board.pendingReset.get p then 0 else m.credit.get p

theorem applyResets_eq (m : Machine σ S) :
    ∃ j, m.applyResets =
      { m with
        board := { m.board with pendingReset := .replicate false, journal := j }
        interpreters := .tabulate m.restarted
        credit := .tabulate m.restartedCredit } := by
  -- each flag is looked at once, and concerns its own processor only
  obtain ⟨⟨memory, roms, loaded, controls, io, main, sound, starfield, chip, ⟨x, y, z⟩, pcs, diagnostics,
    journal⟩, interpreters, slice, credit, cyclesRun⟩ := m
  cases x <;> cases y <;> cases z <;> exact ⟨_, rfl⟩

/-- **Synchronising the lines** resets each interpreter that has a reset coming, and then shows every
interpreter the level of its line. -/
theorem syncLines_eq (m : Machine σ S) :
    ∃ j, m.syncLines =
      { m with
        board := { m.board with pendingReset := .replicate false, journal := j }
        interpreters := .tabulate fun p => Interpreter.setIrqLine (m.restarted p) (m.board.irqLine p)
        credit := .tabulate m.restartedCredit } := by
  obtain ⟨j, hj⟩ := m.applyResets_eq
  refine ⟨j, ?_⟩
  unfold syncLines
  rw [hj]
  rfl

/-- If no reset is due, synchronising the lines touches the interpreters alone, and what the processors may
spend stays as it is. -/
theorem syncLines_of_not_due {m : Machine σ S} (h : m.board.pendingReset = .replicate false) :
    ∃ j interpreters, m.syncLines =
      { m with board := { m.board with journal := j }, interpreters := interpreters } := by
  obtain ⟨j, hj⟩ := m.syncLines_eq
  have hcredit : PerProcessor.tabulate m.restartedCredit = m.credit := by
    apply PerProcessor.ext_get
    intro p
    rw [PerProcessor.get_tabulate, restartedCredit, h, PerProcessor.get_replicate]
    rfl
  refine ⟨j, .tabulate fun p => Interpreter.setIrqLine (m.restarted p) (m.board.irqLine p), ?_⟩
  rw [hj, hcredit, ← h]

end Machine

end Arcade
