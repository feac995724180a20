import Arcade.Interpreter.Idle
import Arcade.Proofs.Board.Footprint
import Arcade.Proofs.Machine.Accounts

/-!
# `Arcade.Proofs.Machine.Idle` — a frame in which every processor only passes the time

An interpreter that does nothing reads its start address, which is in the program of its processor, and so
its steps do not touch the state of the board. No reset comes up then, and a processor that is held stays
held. A turn may end within a step, but a frame has an even number of cycles and every step takes two, so a
frame that begins with nothing owed ends so.

## Contents
- `place_vector`, `run_step`: a step of the interpreter.
- `stepCost_idle`, `eq_of_mem_costs`: every step takes two cycles.
- `Stage.isInner`, `state_after`: the stages within a frame leave the state alone.
- `undisturbed_main`, `cyclesRun_after_of_held`: main is never disturbed, and who is held runs no cycle.
- `runFrame_idle`.
-/

namespace Arcade

open AddressMap

/-! ## One step -/

/-- The vector of a processor is at the end of its program. -/
theorem AddressMap.place_vector (p : Processor) :
    place p .read 0xFFFE = .rom (p.romSize - 2) ∧ place p .read 0xFFFF = .rom (p.romSize - 1) := by
  cases p <;> decide +kernel

section Step

variable {S : Type} [SoundChip S]

omit [SoundChip S] in
theorem Board.state_note (b : Board S) (n : Notice) : (b.note n).state = b.state := rfl

/-- **A step takes two cycles and leaves the state of the board alone.** -/
theorem Idle.run_step (c : Idle) (p : Processor) (b : Board S) :
    ((Idle.step c).run (Board.bus p) b).1.1 = Idle.stepCycles ∧
      ((Idle.step c).run (Board.bus p) b).2.state = b.state := by
  obtain ⟨hhigh, hlow⟩ := place_vector p
  unfold Idle.step
  cases c.needsVector with
  | false => exact ⟨rfl, rfl⟩
  | true =>
    refine ⟨rfl, ?_⟩
    simp only [if_true, BusProgram.run, Board.bus, Board.state_note, Board.state_read, hhigh, hlow]
    rfl

end Step

/-- A stage within a frame: nothing is done to the board from outside. -/
def Stage.isInner {S : Type} : Stage S → Bool
  | .turn _ _ | .resets | .lines => true
  | .board _ => false

namespace Machine

variable {S : Type} [SoundChip S]

theorem stepResult_idle (m : Machine Idle S) (p : Processor) :
    (m.stepResult p).1.1 = Idle.stepCycles ∧ (m.stepResult p).2.state = m.board.state :=
  Idle.run_step _ p _

/-! ## What steps cost -/

theorem stepCost_idle (m : Machine Idle S) (p : Processor) : m.stepCost p = 2 := by
  unfold stepCost
  rw [(m.stepResult_idle p).1]
  rfl

theorem eq_of_mem_spendCosts (m : Machine Idle S) (p : Processor) : ∀ c ∈ m.spendCosts p, c = 2 := by
  fun_induction spendCosts m p with
  | case1 m _ ih =>
    intro c hc
    rcases List.mem_cons.mp hc with rfl | hc
    · exact m.stepCost_idle p
    · exact ih c hc
  | case2 => exact nofun

theorem eq_of_mem_turnCosts (m : Machine Idle S) (p : Processor) (n : Nat) : ∀ c ∈ m.turnCosts p n, c = 2 := by
  unfold turnCosts
  split
  · exact nofun
  · exact eq_of_mem_spendCosts _ p

/-- Every step of a run takes two cycles. -/
theorem eq_of_mem_costs (m : Machine Idle S) (p : Processor) (stages : List (Stage S)) :
    ∀ c ∈ m.costs p stages, c = 2 := by
  induction stages generalizing m with
  | nil => exact nofun
  | cons stage stages ih =>
    intro c hc
    rcases List.mem_append.mp hc with hstage | hrest
    · cases stage with
      | turn q n =>
        change c ∈ if q = p then m.turnCosts p n else [] at hstage
        split at hstage
        · exact m.eq_of_mem_turnCosts p n c hstage
        · cases hstage
      | resets | lines | board _ => cases hstage
    · exact ih _ c hrest

/-! ## What stages leave alone -/

theorem state_spend (m : Machine Idle S) (p : Processor) : (m.spend p).board.state = m.board.state := by
  fun_induction spend m p with
  | case1 m _ ih => exact ih.trans (m.stepResult_idle p).2
  | case2 => rfl

/-- If no reset is due, a stage within a frame leaves the state alone. -/
theorem state_perform {m : Machine Idle S} (hdue : m.board.state.pendingReset = .replicate false)
    {stage : Stage S} (h : stage.isInner = true) : (m.perform stage).board.state = m.board.state := by
  cases stage with
  | turn p n =>
    show (m.takeTurn p n).board.state = m.board.state
    unfold takeTurn
    split
    · rfl
    · exact state_spend _ p
  | resets =>
    obtain ⟨j, hj⟩ := m.applyResets_eq
    show m.applyResets.board.state = m.board.state
    rw [hj]
    exact congrArg (fun due => { m.board.state with pendingReset := due }) hdue.symm
  | lines => rfl
  | board _ => cases h

theorem state_after {m : Machine Idle S} (hdue : m.board.state.pendingReset = .replicate false)
    {stages : List (Stage S)} (h : ∀ stage ∈ stages, stage.isInner = true) :
    (m.after stages).board.state = m.board.state := by
  induction stages generalizing m with
  | nil => rfl
  | cons stage stages ih =>
    have hstage := state_perform hdue (h stage List.mem_cons_self)
    rw [← hstage] at hdue
    exact (ih hdue fun s hs => h s (List.mem_cons_of_mem _ hs)).trans hstage

/-- Main is never held, and not reset either if no reset is due. -/
theorem undisturbed_main {m : Machine Idle S} (hdue : m.board.state.pendingReset = .replicate false)
    {stages : List (Stage S)} (h : ∀ stage ∈ stages, stage.isInner = true) :
    m.Undisturbed .main stages := by
  induction stages generalizing m with
  | nil => trivial
  | cons stage stages ih =>
    refine ⟨?_, ih ?_ fun s hs => h s (List.mem_cons_of_mem _ hs)⟩
    · cases stage with
      | turn q n => cases q <;> rfl
      | resets =>
        show (!m.board.state.pendingReset.get .main) = true
        rw [hdue]
        rfl
      | lines | board _ => rfl
    · rw [state_perform hdue (h stage List.mem_cons_self)]
      exact hdue

/-- A processor that is held runs no cycle. -/
theorem cyclesRun_after_of_held {m : Machine Idle S} {p : Processor}
    (hdue : m.board.state.pendingReset = .replicate false) (hheld : m.board.state.controls.isHeld p = true)
    {stages : List (Stage S)} (h : ∀ stage ∈ stages, stage.isInner = true) :
    (m.after stages).cyclesRun.get p = m.cyclesRun.get p := by
  induction stages generalizing m with
  | nil => rfl
  | cons stage stages ih =>
    have hkept := state_perform hdue (h stage List.mem_cons_self)
    have hcycles : (m.perform stage).cyclesRun.get p = m.cyclesRun.get p := by
      cases stage with
      | turn q n =>
        by_cases hqp : q = p
        · subst hqp
          have hturn : m.board.isHeld q = true := hheld
          show (m.takeTurn q n).cyclesRun.get q = _
          unfold takeTurn
          rw [if_pos hturn]
        · have hother : m.Settles p 0 [] (m.takeTurn q n) := takeTurn_settles_of_ne hqp n
          exact hother.cyclesRun.trans (UInt64.add_zero _)
      | resets =>
        obtain ⟨j, hj⟩ := m.applyResets_eq
        show m.applyResets.cyclesRun.get p = _
        rw [hj]
      | lines | board _ => rfl
    rw [← hkept] at hdue hheld
    exact (ih hdue hheld fun s hs => h s (List.mem_cons_of_mem _ hs)).trans hcycles

/-! ## A frame -/

omit [SoundChip S] in
theorem isInner_of_mem_slices {turns : List Nat} {stage : Stage S}
    (h : stage ∈ turns.flatMap Stage.ofSlice) : stage.isInner = true := by
  obtain ⟨n, -, hstage⟩ := List.mem_flatMap.mp h
  simp only [Stage.ofSlice, List.mem_cons, List.not_mem_nil, or_false] at hstage
  rcases hstage with rfl | rfl | rfl | rfl | rfl | rfl <;> rfl

/-- **The turns of a frame spend exactly its cycles**, however they are cut: two cycles at a time, and with
nothing owed at the end. -/
theorem slices_idle {m : Machine Idle S} (hdue : m.board.state.pendingReset = .replicate false)
    (hcredit : m.credit.get .main = 0) (slice : Nat) :
    (m.after ((budgets slice frameCycles).flatMap Stage.ofSlice)).credit.get .main = 0 ∧
      (m.after ((budgets slice frameCycles).flatMap Stage.ofSlice)).cyclesRun.get .main =
        m.cyclesRun.get .main + .ofNat frameCycles := by
  let stages : List (Stage S) := (budgets slice frameCycles).flatMap Stage.ofSlice
  have hrun : m.Undisturbed .main stages := undisturbed_main hdue fun _ h => isInner_of_mem_slices h
  have hcosts := m.eq_of_mem_costs .main stages
  -- what is spent is even, and so is what was given
  have hspent : (m.costs .main stages).sum = (m.costs .main stages).length * 2 :=
    (congrArg List.sum (List.eq_replicate_of_mem hcosts)).trans List.sum_replicate_nat
  have hgiven : Stage.budgets .main stages = 25344 :=
    (budgets_flatMap_ofSlice .main _).trans (sum_budgets slice frameCycles)
  have howes : m.Owes .main 2 := ⟨by omega, by omega⟩
  obtain ⟨hlow, hhigh⟩ := howes.after hrun fun c hc => Nat.le_of_eq (hcosts c hc)
  obtain ⟨hcharged, hcycles⟩ := after_settles hrun
  rw [hgiven, hspent, hcredit] at hcharged
  have hall : (m.costs .main stages).length * 2 = frameCycles := by
    show _ = 25344
    omega
  rw [hspent, hall] at hcycles
  refine ⟨?_, hcycles⟩
  show (m.after stages).credit.get .main = 0
  unfold frameCycles at hall
  omega

/-- **A frame in which every processor passes the time.** Main runs its cycles and owes nothing, a processor
that is held runs none, and of the state of the board only the resets that were due are gone. -/
theorem runFrame_idle {m : Machine Idle S} (hcredit : m.credit.get .main = 0) :
    m.runFrame.board.state = { m.board.state with pendingReset := .replicate false } ∧
      m.runFrame.credit.get .main = 0 ∧
      m.runFrame.cyclesRun.get .main = m.cyclesRun.get .main + .ofNat frameCycles ∧
      ∀ p, m.board.state.controls.isHeld p = true → m.runFrame.cyclesRun.get p = m.cyclesRun.get p := by
  obtain ⟨j, hj⟩ := m.syncLines_eq
  have hrun : m.runFrame = m.syncLines.after ((budgets m.slice frameCycles).flatMap Stage.ofSlice) :=
    (m.syncLines.after_slices _).symm
  have hstate : m.syncLines.board.state = { m.board.state with pendingReset := .replicate false } := by
    rw [hj]
    rfl
  have hdue : m.syncLines.board.state.pendingReset = .replicate false := by rw [hstate]
  have hzero : m.syncLines.credit.get .main = 0 := by
    rw [hj]
    show m.restartedCredit .main = 0
    unfold restartedCredit
    split
    · rfl
    · exact hcredit
  have hcycles : m.syncLines.cyclesRun = m.cyclesRun := by rw [hj]
  obtain ⟨howed, hspent⟩ := slices_idle hdue hzero m.slice
  rw [hrun]
  refine ⟨?_, howed, ?_, ?_⟩
  · rw [state_after hdue fun _ h => isInner_of_mem_slices h, hstate]
  · rw [hspent, hcycles]
  · intro p hheld
    have hstill : m.syncLines.board.state.controls.isHeld p = true := by rw [hstate]; exact hheld
    rw [cyclesRun_after_of_held hdue hstill fun _ h => isInner_of_mem_slices h, hcycles]

end Machine

end Arcade
