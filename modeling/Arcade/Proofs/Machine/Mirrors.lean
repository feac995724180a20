import Arcade.Proofs.Board.Restore
import Arcade.Proofs.Machine.Runs

/-!
# `Arcade.Proofs.Machine.Mirrors` — machines that mirror each other run alike

Two machines mirror each other when their boards do and everything that decides the order of steps is the
same on both: the interpreters, the length of a turn, and what each processor may still spend. The cycles
run so far may differ, by an amount for each processor that stays as it is. A frame then makes the same
steps on both, with the same results, and leaves them mirroring each other.

What a processor may still spend is part of this. The end of a turn seldom falls on the end of a step, and
what was spent too much is made up for in the next turn, which may be in the next frame.

## Contents
- `BusProgram.run_mirrors`: the accesses of one step.
- `Machine.Mirrors`, and its lemmas from `syncLines` up to `runFrame`.
-/

namespace Arcade

variable {σ S T : Type} {queued : Array OutputEvent}

/-- **The accesses of a step on boards that mirror each other** have the same result. -/
theorem BusProgram.run_mirrors [SoundChip S] [SoundChip T] {α : Type} (program : BusProgram α)
    (p : Processor) {b : Board S} {c : Board T} (h : b.Mirrors queued c) :
    (program.run (Board.bus p) b).1 = (program.run (Board.bus p) c).1 ∧
      (program.run (Board.bus p) b).2.Mirrors queued (program.run (Board.bus p) c).2 := by
  induction program generalizing b c with
  | done a => exact ⟨rfl, h⟩
  | read a next ih =>
    -- both go on with what was read, which is the same
    obtain ⟨hread, hnext⟩ := h.read p a
    show ((next (b.read p a).1).run (Board.bus p) (b.read p a).2).1 =
        ((next (c.read p a).1).run (Board.bus p) (c.read p a).2).1 ∧
      ((next (b.read p a).1).run (Board.bus p) (b.read p a).2).2.Mirrors queued
        ((next (c.read p a).1).run (Board.bus p) (c.read p a).2).2
    rw [hread]
    exact ih _ hnext
  | write a data next ih => exact ih (h.write p a data)
  | note n next ih => exact ih { h with }

namespace Machine

/-- Two machines that go on alike: they differ at most in what nobody can ask their boards for, and in how
many cycles they have run, of which the first is ahead by `lead`. -/
structure Mirrors (queued : Array OutputEvent) (lead : Processor → UInt64) (m : Machine σ S)
    (n : Machine σ T) : Prop where
  board : m.board.Mirrors queued n.board
  interpreters : m.interpreters = n.interpreters
  slice : m.slice = n.slice
  credit : m.credit = n.credit
  cyclesRun : ∀ p, m.cyclesRun.get p = n.cyclesRun.get p + lead p

namespace Mirrors

variable {lead : Processor → UInt64} {m : Machine σ S} {n : Machine σ T}

theorem irqLine (h : m.Mirrors queued lead n) (p : Processor) :
    m.board.irqLine p = n.board.irqLine p := congrArg (fun c : Controls => c.irqLine p) h.board.controls

theorem isHeld (h : m.Mirrors queued lead n) (p : Processor) :
    m.board.isHeld p = n.board.isHeld p := congrArg (fun c : Controls => c.isHeld p) h.board.controls

section Lines

variable [Interpreter σ]

theorem restarted (h : m.Mirrors queued lead n) : m.restarted = n.restarted := by
  funext p
  unfold Machine.restarted
  rw [h.board.pendingReset, h.interpreters]

omit [Interpreter σ] in
theorem restartedCredit (h : m.Mirrors queued lead n) : m.restartedCredit = n.restartedCredit := by
  funext p
  unfold Machine.restartedCredit
  rw [h.board.pendingReset, h.credit]

theorem applyResets (h : m.Mirrors queued lead n) : m.applyResets.Mirrors queued lead n.applyResets := by
  obtain ⟨j, hj⟩ := m.applyResets_eq
  obtain ⟨k, hk⟩ := n.applyResets_eq
  rw [hj, hk]
  exact { h with
    board := { h.board with pendingReset := rfl }
    interpreters := congrArg PerProcessor.tabulate h.restarted
    credit := congrArg PerProcessor.tabulate h.restartedCredit }

theorem syncLines (h : m.Mirrors queued lead n) : m.syncLines.Mirrors queued lead n.syncLines := by
  obtain ⟨j, hj⟩ := m.syncLines_eq
  obtain ⟨k, hk⟩ := n.syncLines_eq
  have hshown : (fun p => Interpreter.setIrqLine (m.restarted p) (m.board.irqLine p)) =
      fun p => Interpreter.setIrqLine (n.restarted p) (n.board.irqLine p) := by
    funext p
    rw [h.restarted, h.irqLine]
  rw [hj, hk]
  exact { h with
    board := { h.board with pendingReset := rfl }
    interpreters := congrArg PerProcessor.tabulate hshown
    credit := congrArg PerProcessor.tabulate h.restartedCredit }

end Lines

/-! ## Turns -/

variable [Interpreter σ] [SoundChip S] [SoundChip T]

/-- **One step of a processor** has the same result on both machines. -/
theorem stepResult (h : m.Mirrors queued lead n) (p : Processor) :
    (m.stepResult p).1 = (n.stepResult p).1 ∧
      (m.stepResult p).2.Mirrors queued (n.stepResult p).2 := by
  have hnoted (pc : UInt16) : (m.board.notePc p pc).Mirrors queued (n.board.notePc p pc) := { h.board with }
  unfold Machine.stepResult
  rw [h.interpreters, h.irqLine]
  exact BusProgram.run_mirrors _ p (hnoted _)

theorem takeStep (h : m.Mirrors queued lead n) (p : Processor) :
    (m.takeStep p).Mirrors queued lead (n.takeStep p) := by
  obtain ⟨hresult, hboard⟩ := h.stepResult p
  rw [takeStep_eq, takeStep_eq, hresult]
  refine { board := hboard, interpreters := ?_, slice := h.slice, credit := ?_, cyclesRun := ?_ }
  · rw [h.interpreters]
  · rw [h.credit]
  · intro q
    have hq := h.cyclesRun q
    rw [PerProcessor.get_modify, PerProcessor.get_modify, hq]
    split
    · ac_rfl
    · rfl

/-- All the steps of a turn. Both machines stop at the same step, having spent the same. -/
theorem spend (m : Machine σ S) {n : Machine σ T} {p : Processor} (h : m.Mirrors queued lead n) :
    (m.spend p).Mirrors queued lead (n.spend p) := by
  fun_induction Machine.spend m p generalizing n with
  | case1 m hcredit ih =>
    rw [h.credit] at hcredit
    rw [Machine.spend.eq_def n, if_pos hcredit]
    exact ih (h.takeStep p)
  | case2 m hcredit =>
    rw [h.credit] at hcredit
    rw [Machine.spend.eq_def n, if_neg hcredit]
    exact h

theorem takeTurn (h : m.Mirrors queued lead n) (p : Processor) (budget : Nat) :
    (m.takeTurn p budget).Mirrors queued lead (n.takeTurn p budget) := by
  unfold Machine.takeTurn
  rw [h.isHeld p]
  cases n.board.isHeld p with
  | true => exact { h with credit := congrArg (fun t : PerProcessor Int => t.set p 0) h.credit }
  | false =>
    simp only [Bool.false_eq_true, if_false]
    exact spend _ { h with
      credit := congrArg (fun t : PerProcessor Int => t.modify p fun k => k + budget) h.credit }

/-! ## Slices and frames -/

theorem runSlice (h : m.Mirrors queued lead n) (budget : Nat) :
    (m.runSlice budget).Mirrors queued lead (n.runSlice budget) :=
  (((h.takeTurn .main budget).applyResets.takeTurn .sub budget).applyResets.takeTurn .sound
    budget).applyResets

theorem slices (h : m.Mirrors queued lead n) (budgets : List Nat) :
    (budgets.foldl Machine.runSlice m).Mirrors queued lead (budgets.foldl Machine.runSlice n) := by
  induction budgets generalizing m n with
  | nil => exact h
  | cons budget budgets ih => exact ih (h.runSlice budget)

/-- **The processors run a frame alike.** -/
theorem runFrame (h : m.Mirrors queued lead n) : m.runFrame.Mirrors queued lead n.runFrame := by
  unfold Machine.runFrame
  rw [h.slice]
  exact h.syncLines.slices _

end Mirrors

end Machine

end Arcade
