import Arcade.Proofs.Cabinet.Reachable
import Arcade.Proofs.Machine.Events

/-!
# `Arcade.Proofs.Machine.Imitation` — interpreters that imitate others

Interpreters of one kind may be turned into interpreters of another kind that do the same: they are reset alike,
take the level of their line alike, show the same program counter, and make the same accesses in a step for the
same number of cycles. A cabinet whose interpreters are all replaced so goes on as it would have. It has the same
board at any time, with the same cycles run, and leaves the same trace.

## Contents
- `Interpreter.Imitates`: a function between interpreters that keeps what they do.
- `Machine.recast`, `Cabinet.recast`: with the interpreters replaced.
- Each function of the machine, with its part of the trace, from `applyReset` up to `runFrame`.
- `Cabinet.assemble_recast`, `Cabinet.recast_run`, `Cabinet.events_recast`.
-/

namespace Arcade

/-- What a function makes of an interpreter does the same as the interpreter. -/
structure Interpreter.Imitates {σ τ : Type} [Interpreter σ] [Interpreter τ] (f : σ → τ) : Prop where
  reset : ∀ c, f (Interpreter.reset c) = Interpreter.reset (f c)
  setIrqLine : ∀ c on, f (Interpreter.setIrqLine c on) = Interpreter.setIrqLine (f c) on
  pc : ∀ c, Interpreter.pc (f c) = Interpreter.pc c
  step : ∀ c, Interpreter.step (f c) = (Interpreter.step c).map fun r => (r.1, f r.2)

theorem PerProcessor.map_modify {α β : Type} {f : α → β} {g : α → α} {h : β → β} (hcomm : ∀ a, f (g a) = h (f a))
    (t : PerProcessor α) (p : Processor) : (t.modify p g).map f = (t.map f).modify p h := by
  refine PerProcessor.ext_get fun q => ?_
  rw [get_map, get_modify, get_modify, get_map]
  split
  · exact hcomm _
  · rfl

theorem PerProcessor.map_set {α β : Type} (f : α → β) (t : PerProcessor α) (p : Processor) (a : α) :
    (t.set p a).map f = (t.map f).set p (f a) := by
  refine PerProcessor.ext_get fun q => ?_
  rw [get_map, get_set, get_set, get_map]
  split <;> rfl

/-- What is made of the result of a program has no part in what it does to the board. -/
theorem BusProgram.edges_map {S α γ : Type} [SoundChip S] (p : Processor) (f : α → γ) (program : BusProgram α)
    (b : Board S) : (program.map f).edges p b = program.edges p b := by
  induction program generalizing b with
  | done a => rfl
  | read a next ih => exact congrArg (_ ++ ·) (ih _ _)
  | write a data next ih => exact congrArg (_ ++ ·) (ih _)
  | note n next ih => exact ih _

variable {σ τ S : Type}

/-- The machine with its interpreters replaced. -/
def Machine.recast (f : σ → τ) (m : Machine σ S) : Machine τ S := { m with interpreters := m.interpreters.map f }

/-- The cabinet with its interpreters replaced. -/
def Cabinet.recast (f : σ → τ) (s : Cabinet σ S) : Cabinet τ S := { s with machine := s.machine.recast f }

variable [Interpreter σ] [Interpreter τ] {f : σ → τ}

/-! ## Resets and lines -/

namespace Machine

theorem recast_applyReset (hf : Interpreter.Imitates f) (m : Machine σ S) (p : Processor) :
    (m.applyReset p).recast f = (m.recast f).applyReset p := by
  have hreset := PerProcessor.map_modify hf.reset m.interpreters p
  unfold applyReset recast
  dsimp only
  by_cases hdue : (m.board.takeReset p).1 = true
  · rw [if_pos hdue, if_pos hdue]
    dsimp only
    rw [hreset]
  · rw [if_neg hdue, if_neg hdue]

theorem recast_applyResets (hf : Interpreter.Imitates f) (m : Machine σ S) :
    m.applyResets.recast f = (m.recast f).applyResets := by
  unfold applyResets
  rw [recast_applyReset hf, recast_applyReset hf, recast_applyReset hf]

theorem resetEvents_recast (hf : Interpreter.Imitates f) (m : Machine σ S) :
    (m.recast f).resetEvents = m.resetEvents := by
  unfold resetEvents
  rw [← recast_applyReset hf, ← recast_applyReset hf]
  rfl

theorem recast_showLine (hf : Interpreter.Imitates f) (m : Machine σ S) (p : Processor) :
    (m.showLine p).recast f = (m.recast f).showLine p := by
  have hline : (m.interpreters.modify p fun c => Interpreter.setIrqLine c (m.board.irqLine p)).map f =
      (m.interpreters.map f).modify p fun c => Interpreter.setIrqLine c (m.board.irqLine p) :=
    PerProcessor.map_modify (fun c => hf.setIrqLine c _) _ p
  unfold showLine recast
  dsimp only
  rw [hline]

theorem recast_syncLines (hf : Interpreter.Imitates f) (m : Machine σ S) :
    m.syncLines.recast f = (m.recast f).syncLines := by
  unfold syncLines
  rw [recast_showLine hf, recast_showLine hf, recast_showLine hf, recast_applyResets hf]

/-! ## Turns -/

variable [SoundChip S]

/-- **A step is the same**, with the same accesses one by one. -/
theorem recast_takeStep (hf : Interpreter.Imitates f) (m : Machine σ S) (p : Processor) :
    (m.takeStep p).recast f = (m.recast f).takeStep p ∧ (m.recast f).stepEvents p = m.stepEvents p := by
  have hshown : Interpreter.setIrqLine ((m.interpreters.map f).get p) (m.board.irqLine p) =
      f (Interpreter.setIrqLine (m.interpreters.get p) (m.board.irqLine p)) := by
    rw [PerProcessor.get_map, hf.setIrqLine]
  constructor
  · unfold takeStep recast
    dsimp only
    rw [hshown, hf.pc, hf.step, BusProgram.run_map, PerProcessor.map_set]
  · unfold stepEvents recast
    dsimp only
    rw [hshown, hf.pc, hf.step, BusProgram.edges_map]

theorem recast_spend (hf : Interpreter.Imitates f) (m : Machine σ S) (p : Processor) :
    (m.spend p).recast f = (m.recast f).spend p ∧ (m.recast f).spendEvents p = m.spendEvents p := by
  fun_induction spend m p with
  | case1 m hcredit ih =>
    obtain ⟨hstep, hevents⟩ := recast_takeStep hf m p
    have hcredit' : 0 < (m.recast f).credit.get p := hcredit
    rw [spend.eq_def (m.recast f), if_pos hcredit', spendEvents.eq_def (m.recast f), if_pos hcredit',
      spendEvents.eq_def m, if_pos hcredit, ← hstep, hevents]
    exact ⟨ih.1, congrArg (_ ++ ·) ih.2⟩
  | case2 m hcredit =>
    have hcredit' : ¬0 < (m.recast f).credit.get p := hcredit
    rw [spend.eq_def (m.recast f), if_neg hcredit', spendEvents.eq_def (m.recast f), if_neg hcredit',
      spendEvents.eq_def m, if_neg hcredit]
    exact ⟨rfl, rfl⟩

theorem recast_takeTurn (hf : Interpreter.Imitates f) (m : Machine σ S) (p : Processor) (budget : Nat) :
    (m.takeTurn p budget).recast f = (m.recast f).takeTurn p budget ∧
      (m.recast f).turnEvents p budget = m.turnEvents p budget := by
  have hboard : (m.recast f).board = m.board := rfl
  unfold takeTurn turnEvents
  rw [hboard]
  cases m.board.isHeld p with
  | true => exact ⟨rfl, rfl⟩
  | false => exact recast_spend hf { m with credit := m.credit.modify p fun n => n + budget } p

/-! ## Slices and frames -/

theorem recast_runSlice (hf : Interpreter.Imitates f) (m : Machine σ S) (budget : Nat) :
    (m.runSlice budget).recast f = (m.recast f).runSlice budget ∧
      (m.recast f).sliceEvents budget = m.sliceEvents budget := by
  have turn (m : Machine σ S) (p : Processor) := recast_takeTurn hf m p budget
  constructor
  · unfold runSlice
    dsimp only
    rw [recast_applyResets hf, (turn _ _).1, recast_applyResets hf, (turn _ _).1, recast_applyResets hf, (turn _ _).1]
  · unfold sliceEvents
    dsimp only
    rw [← (turn m .main).1, ← recast_applyResets hf, ← (turn _ .sub).1, ← recast_applyResets hf, ← (turn _ .sound).1,
      (turn _ _).2, (turn _ _).2, (turn _ _).2, resetEvents_recast hf, resetEvents_recast hf, resetEvents_recast hf]

theorem recast_slices (hf : Interpreter.Imitates f) (m : Machine σ S) (budgets : List Nat) :
    (budgets.foldl runSlice m).recast f = budgets.foldl runSlice (m.recast f) ∧
      (m.recast f).slicesEvents budgets = m.slicesEvents budgets := by
  induction budgets generalizing m with
  | nil => exact ⟨rfl, rfl⟩
  | cons budget budgets ih =>
    obtain ⟨hslice, hevents⟩ := recast_runSlice hf m budget
    rw [List.foldl_cons, List.foldl_cons, slicesEvents, slicesEvents, ← hslice, hevents]
    exact ⟨(ih _).1, congrArg (_ ++ ·) (ih _).2⟩

/-- **A frame is the same.** -/
theorem recast_runFrame (hf : Interpreter.Imitates f) (m : Machine σ S) :
    m.runFrame.recast f = (m.recast f).runFrame ∧ (m.recast f).frameEvents = m.frameEvents := by
  obtain ⟨hslices, hevents⟩ := recast_slices hf m.syncLines (budgets m.slice frameCycles)
  rw [recast_syncLines hf] at hslices hevents
  refine ⟨hslices, ?_⟩
  unfold frameEvents
  rw [resetEvents_recast hf]
  exact congrArg (_ ++ ·) hevents

end Machine

/-! ## Cabinets -/

namespace Cabinet

omit [Interpreter σ] [Interpreter τ] in
/-- A cabinet can be put together with other interpreters in their places. -/
theorem assemble_recast (f : σ → τ) {config : Config} {interpreters : PerProcessor σ} {sound : S} {journal : Journal}
    {s : Cabinet σ S} (h : assemble config interpreters sound journal = .ok s) :
    assemble config (interpreters.map f) sound journal = .ok (s.recast f) := by
  obtain ⟨r, hr, rfl⟩ := assemble_eq_ok h
  exact assemble_eq hr (interpreters.map f) sound journal

variable [SoundChip S]

omit [SoundChip S] in
theorem changeEvents_recast (hf : Interpreter.Imitates f) (m : Machine σ S) (board : Board S) (machineReset : Bool) :
    changeEvents (m.recast f) board machineReset = changeEvents m board machineReset :=
  congrArg (_ ++ ·) (Machine.resetEvents_recast hf { m with board := board })

theorem recast_stepFrame (hf : Interpreter.Imitates f) (s : Cabinet σ S) :
    s.stepFrame.recast f = (s.recast f).stepFrame ∧ (s.recast f).callEvents .stepFrame = s.callEvents .stepFrame := by
  obtain ⟨hran, hevents⟩ := Machine.recast_runFrame hf { s.machine with board := s.machine.board.beginFrame }
  have hbegun : ({ (s.recast f).machine with board := (s.recast f).machine.board.beginFrame } : Machine τ S) =
      ({ s.machine with board := s.machine.board.beginFrame } : Machine σ S).recast f := rfl
  unfold stepFrame callEvents
  dsimp only
  rw [hbegun, ← hran, hevents]
  generalize ({ s.machine with board := s.machine.board.beginFrame } : Machine σ S).runFrame = ran
  have hboard : (ran.recast f).board = ran.board := rfl
  rw [hboard]
  obtain ⟨sync, board⟩ := ran.board.frameSync
  have hsync := Machine.recast_syncLines hf { ran with board := board }
  exact ⟨congrArg (fun m => { s with machine := m, frame := s.frame + 1, lastSync := sync }) hsync,
    congrArg (_ ++ ·) (changeEvents_recast hf ran board sync.watchdogReset.isSome)⟩

/-- **Whatever a host asks, it is the same.** -/
theorem recast_perform (hf : Interpreter.Imitates f) (s : Cabinet σ S) (call : Call) :
    (s.perform call).recast f = (s.recast f).perform call ∧ (s.recast f).callEvents call = s.callEvents call := by
  cases call with
  | reset =>
    have hsync := Machine.recast_syncLines hf { s.machine with board := s.machine.board.machineReset }
    exact ⟨congrArg (fun m => { s with machine := m }) hsync, changeEvents_recast hf s.machine _ true⟩
  | stepFrame => exact recast_stepFrame hf s

/-- **A run is the same** with interpreters that imitate those of a cabinet. -/
theorem recast_run (hf : Interpreter.Imitates f) (s : Cabinet σ S) (calls : List Call) :
    (s.run calls).recast f = (s.recast f).run calls := by
  induction calls generalizing s with
  | nil => rfl
  | cons call calls ih =>
    show ((s.perform call).run calls).recast f = ((s.recast f).perform call).run calls
    rw [ih, (recast_perform hf s call).1]

/-- **And so is its trace.** -/
theorem events_recast (hf : Interpreter.Imitates f) (s : Cabinet σ S) (calls : List Call) :
    (s.recast f).events calls = s.events calls := by
  induction calls generalizing s with
  | nil => rfl
  | cons call calls ih =>
    obtain ⟨hperform, hevents⟩ := recast_perform hf s call
    rw [events, events, ← hperform, ih, hevents]

end Cabinet

end Arcade
