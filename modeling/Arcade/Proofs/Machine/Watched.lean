import Arcade.Proofs.Machine.Imitation

/-!
# `Arcade.Proofs.Machine.Watched` — the trace is what the interpreters go through

A trace is computed beside the run that it is the trace of. This module checks one against the other.
Any interpreter can be watched: it keeps a list of its own resets and steps, and is otherwise as before.
So a cabinet that is watched goes the way that it would have gone, and at the end of a run the list of each
interpreter has grown by exactly its part of the trace, in the same order. The trace leaves out no reset and
no step, and adds none.

## Contents
- `Watched`, an interpreter with a list of its `Deed`s; `Event.deed?`.
- `Machine.Follows`: what was done between two machines is in a trace.
- `Cabinet.deeds_run`, and a cabinet that is watched from the outset: `Cabinet.exists_watched`.
-/

namespace Arcade

/-- What is done with an interpreter. -/
inductive Deed
  | reset
  | step
  deriving DecidableEq, Repr

/-- An interpreter, and what has been done with it, the latest last. -/
structure Watched (σ : Type) where
  chip : σ
  deeds : List Deed

/-- An interpreter that is watched from here on. -/
def Watched.start {σ : Type} (c : σ) : Watched σ := ⟨c, []⟩

instance {σ : Type} [Interpreter σ] : Interpreter (Watched σ) where
  reset w := ⟨Interpreter.reset w.chip, w.deeds ++ [.reset]⟩
  setIrqLine w on := { w with chip := Interpreter.setIrqLine w.chip on }
  pc w := Interpreter.pc w.chip
  step w := (Interpreter.step w.chip).map fun r => (r.1, ⟨r.2, w.deeds ++ [.step]⟩)

theorem Watched.deeds_step {σ β : Type} [Interpreter σ] (w : Watched σ) (bus : Bus β) (b : β) :
    ((Interpreter.step w).run bus b).1.2.deeds = w.deeds ++ [.step] := by
  show (((Interpreter.step w.chip).map fun r => (r.1, (⟨r.2, w.deeds ++ [.step]⟩ : Watched σ))).run
    bus b).1.2.deeds = _
  rw [BusProgram.run_map]

/-- Nothing changes for an interpreter when nobody watches it. -/
theorem Watched.imitates_chip {σ : Type} [Interpreter σ] : Interpreter.Imitates (Watched.chip : Watched σ → σ) where
  reset _ := rfl
  setIrqLine _ _ := rfl
  pc _ := rfl
  step w := by
    have hback : ((Interpreter.step w).map fun r => (r.1, r.2.chip)) = (Interpreter.step w.chip).map fun r => r :=
      BusProgram.map_map _ _ _
    rw [hback, BusProgram.map_id]

/-- What an event does with the interpreter of a processor. -/
def Event.deed? (p : Processor) : Event → Option Deed
  | .reset q => if q = p then some .reset else none
  | .step q _ => if q = p then some .step else none
  | .asserted => none
  | .machineReset => none

/-- Nothing on the board does anything with an interpreter. -/
theorem deeds_edge {S : Type} (p : Processor) (b b' : Board S) :
    (b.edge b').filterMap (Event.deed? p) = [] := by
  unfold Board.edge
  split <;> rfl

theorem deeds_edges {S : Type} [SoundChip S] {α : Type} (p q : Processor) (program : BusProgram α)
    (b : Board S) : (program.edges q b).filterMap (Event.deed? p) = [] := by
  induction program generalizing b with
  | done a => rfl
  | read a next ih =>
    rw [BusProgram.edges, List.filterMap_append, deeds_edge, ih]
    rfl
  | write a data next ih =>
    rw [BusProgram.edges, List.filterMap_append, deeds_edge, ih]
    rfl
  | note n next ih => exact ih (b.note n)

/-! ## Machines -/

namespace Machine

variable {σ S : Type} [Interpreter σ] {m m' m'' : Machine (Watched σ) S} {events more : List Event}

/-- What has been done with the interpreter of a processor. -/
def deeds (m : Machine (Watched σ) S) (p : Processor) : List Deed := (m.interpreters.get p).deeds

/-- From one machine to another the interpreters go through their part of some events. -/
def Follows (m : Machine (Watched σ) S) (events : List Event) (m' : Machine (Watched σ) S) : Prop :=
  ∀ p, m'.deeds p = m.deeds p ++ events.filterMap (Event.deed? p)

omit [Interpreter σ] in
theorem Follows.of_eq (h : m'.interpreters = m.interpreters) : m.Follows [] m' := by
  intro p
  unfold deeds
  rw [h, List.filterMap_nil, List.append_nil]

omit [Interpreter σ] in
theorem Follows.trans (h : m.Follows events m') (h' : m'.Follows more m'') :
    m.Follows (events ++ more) m'' := by
  intro p
  rw [h' p, h p, List.filterMap_append, List.append_assoc]

theorem applyReset_follows (m : Machine (Watched σ) S) (p : Processor) :
    m.Follows (m.resetEvent p) (m.applyReset p) := by
  unfold resetEvent applyReset
  dsimp only
  by_cases hdue : (m.board.takeReset p).1 = true
  · rw [if_pos hdue, if_pos hdue]
    intro q
    show ((m.interpreters.modify p Interpreter.reset).get q).deeds = _
    rw [PerProcessor.get_modify]
    by_cases hpq : p = q
    · simp only [hpq, if_true, List.filterMap_cons, Event.deed?]
      rfl
    · simp only [hpq, if_false, List.filterMap_cons, Event.deed?, List.filterMap_nil, List.append_nil]
      rfl
  · rw [if_neg hdue, if_neg hdue]
    exact .of_eq rfl

theorem applyResets_follows (m : Machine (Watched σ) S) : m.Follows m.resetEvents m.applyResets :=
  ((m.applyReset_follows .main).trans (applyReset_follows _ .sub)).trans (applyReset_follows _ .sound)

theorem showLine_follows (m : Machine (Watched σ) S) (p : Processor) : m.Follows [] (m.showLine p) := by
  intro q
  show ((m.interpreters.modify p _).get q).deeds = _
  rw [PerProcessor.get_modify, List.filterMap_nil, List.append_nil]
  split <;> rfl

theorem syncLines_follows (m : Machine (Watched σ) S) : m.Follows m.resetEvents m.syncLines := by
  have hshown := ((showLine_follows m.applyResets .main).trans (showLine_follows _ .sub)).trans
    (showLine_follows _ .sound)
  have h := m.applyResets_follows.trans hshown
  rw [List.append_nil, List.append_nil, List.append_nil] at h
  exact h

variable [SoundChip S]

theorem takeStep_follows (m : Machine (Watched σ) S) (p : Processor) :
    m.Follows (m.stepEvents p) (m.takeStep p) := by
  intro q
  show ((m.interpreters.set p _).get q).deeds = _
  unfold stepEvents
  dsimp only
  rw [PerProcessor.get_set, List.filterMap_cons, deeds_edges]
  by_cases hpq : p = q
  · subst hpq
    rw [if_pos rfl, Watched.deeds_step, Event.deed?, if_pos rfl]
    rfl
  · rw [if_neg hpq, Event.deed?, if_neg hpq, List.append_nil]
    rfl

theorem spend_follows (m : Machine (Watched σ) S) (p : Processor) :
    m.Follows (m.spendEvents p) (m.spend p) := by
  fun_induction spend m p with
  | case1 m hcredit ih =>
    rw [spendEvents, if_pos hcredit]
    exact (m.takeStep_follows p).trans ih
  | case2 m hcredit =>
    rw [spendEvents, if_neg hcredit]
    exact .of_eq rfl

theorem takeTurn_follows (m : Machine (Watched σ) S) (p : Processor) (budget : Nat) :
    m.Follows (m.turnEvents p budget) (m.takeTurn p budget) := by
  unfold turnEvents takeTurn
  cases m.board.isHeld p with
  | true => exact .of_eq rfl
  | false =>
    simp only [Bool.false_eq_true, if_false]
    exact spend_follows { m with credit := m.credit.modify p fun n => n + budget } p

theorem runSlice_follows (m : Machine (Watched σ) S) (budget : Nat) :
    m.Follows (m.sliceEvents budget) (m.runSlice budget) := by
  -- the three turns differ only in the processor
  have turn (m : Machine (Watched σ) S) (p : Processor) :=
    (m.takeTurn_follows p budget).trans (applyResets_follows _)
  exact ((turn m .main).trans (turn _ .sub)).trans (turn _ .sound)

theorem slices_follow (m : Machine (Watched σ) S) (budgets : List Nat) :
    m.Follows (m.slicesEvents budgets) (budgets.foldl runSlice m) := by
  induction budgets generalizing m with
  | nil => exact .of_eq rfl
  | cons budget budgets ih => exact (m.runSlice_follows budget).trans (ih (m.runSlice budget))

theorem runFrame_follows (m : Machine (Watched σ) S) : m.Follows m.frameEvents m.runFrame :=
  m.syncLines_follows.trans (slices_follow _ _)

end Machine

/-! ## Cabinets -/

namespace Cabinet

variable {σ S : Type} [Interpreter σ]

theorem change_follows (m : Machine (Watched σ) S) (board : Board S) (machineReset : Bool) :
    m.Follows (changeEvents m board machineReset)
      ({ m with board := board } : Machine (Watched σ) S).syncLines := by
  have hchange : m.Follows (m.board.edge board ++ (if machineReset then [.machineReset] else []))
      { m with board := board } := by
    intro p
    rw [List.filterMap_append, deeds_edge]
    cases machineReset <;> exact (List.append_nil _).symm
  exact hchange.trans (Machine.syncLines_follows _)

variable [SoundChip S]

theorem perform_follows (s : Cabinet (Watched σ) S) (call : Call) :
    s.machine.Follows (s.callEvents call) (s.perform call).machine := by
  cases call with
  | reset => exact change_follows s.machine _ true
  | stepFrame =>
    have hbegin : s.machine.Follows [] { s.machine with board := s.machine.board.beginFrame } :=
      .of_eq rfl
    exact (hbegin.trans (Machine.runFrame_follows _)).trans (change_follows _ _ _)

/-- **The trace of a run is what the interpreters go through.** At the end of a run each interpreter
has gone through its part of the trace, in that order, and through nothing else. -/
theorem deeds_run (s : Cabinet (Watched σ) S) (calls : List Call) (p : Processor) :
    (s.run calls).machine.deeds p =
      s.machine.deeds p ++ (s.events calls).filterMap (Event.deed? p) := by
  have h : s.machine.Follows (s.events calls) (s.run calls).machine := by
    induction calls generalizing s with
    | nil => exact .of_eq rfl
    | cons call calls ih => exact (s.perform_follows call).trans (ih (s.perform call))
  exact h p

/-- **A cabinet can be watched from the outset.** It goes the way that it would have gone, and each interpreter goes
through its part of the trace. -/
theorem exists_watched {config : Config} {interpreters : PerProcessor σ} {sound : S} {journal : Journal}
    {s : Cabinet σ S} (h : assemble config interpreters sound journal = .ok s) (calls : List Call) :
    ∃ w : Cabinet (Watched σ) S, assemble config (interpreters.map Watched.start) sound journal = .ok w ∧
      (w.run calls).recast Watched.chip = s.run calls ∧
      ∀ p, (w.run calls).machine.deeds p = (s.events calls).filterMap (Event.deed? p) := by
  have hs : (s.recast Watched.start).recast Watched.chip = s := rfl
  refine ⟨s.recast Watched.start, assemble_recast _ h, ?_, fun p => ?_⟩
  · rw [recast_run Watched.imitates_chip, hs]
  · have hnone : (s.recast Watched.start).machine.deeds p = [] := by
      show ((s.machine.interpreters.map Watched.start).get p).deeds = []
      rw [PerProcessor.get_map]
      rfl
    rw [deeds_run, hnone, List.nil_append, ← events_recast Watched.imitates_chip, hs]

end Cabinet

end Arcade
