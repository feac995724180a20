import Arcade.Interpreter.StandIn
import Arcade.Proofs.Cabinet.Reachable
import Arcade.Proofs.Machine.Events
import Arcade.Proofs.Machine.Runs
import Mathlib.Algebra.GroupWithZero.Nat

/-!
# `Arcade.Proofs.Machine.Accounts` — what a processor spends is what it was given, to within a step

A turn gives a processor some cycles to spend, and it takes steps until they are spent. The last step of
a turn mostly takes more than is left. What was spent too much is owed, and the next turn gives so much
less. So over any number of turns, in however many frames, a processor spends what it was given and less
than one step more. Only a reset or a hold ends such a stretch: both forget what is owed.

A run is cut into *stages* here: the turn of a processor, the resets that are then taken up, and whatever
a host does to the board between two frames. A stretch can begin and end at any stage.

## Contents
- `Stage`, `Machine.after`, and frames as lists of stages: `runFrame_eq_after`, `run_eq_after`.
- `Machine.spendCosts`, `turnCosts`, `costs`: the cycles of each step that is taken.
- `Machine.Settles`: the account of a processor from one machine to another.
- `credit_spend_nonpos`, `neg_lt_credit_spend`: what is owed is less than one step.
- `Machine.cycles_follow_budgets`.
-/

namespace Arcade

/-- One thing that happens to a machine. -/
inductive Stage (S : Type)
  /-- A processor has a turn of some cycles. -/
  | turn (p : Processor) (budget : Nat)
  /-- The resets that came up reach the interpreters. -/
  | resets
  /-- The interpreters are shown their interrupt lines. -/
  | lines
  /-- Something is done to the board while no processor runs. -/
  | board (change : Board S → Board S)

namespace Stage

variable {S : Type}

/-- The cycles that a stage gives to a processor. -/
def budget (p : Processor) : Stage S → Nat
  | .turn q n => if q = p then n else 0
  | .resets | .lines | .board _ => 0

/-- The cycles that a list of stages gives to a processor. -/
def budgets (p : Processor) (stages : List (Stage S)) : Nat := (stages.map (budget p)).sum

theorem budgets_append (p : Processor) (stages more : List (Stage S)) :
    budgets p (stages ++ more) = budgets p stages + budgets p more := by
  unfold budgets
  rw [List.map_append, List.sum_append]

/-- The stages of a slice. -/
def ofSlice (n : Nat) : List (Stage S) :=
  [.turn .main n, .resets, .turn .sub n, .resets, .turn .sound n, .resets]

/-- The stages of a frame, for the length of a turn. -/
def ofFrame (slice : Nat) : List (Stage S) :=
  .resets :: .lines :: (Machine.budgets slice Machine.frameCycles).flatMap ofSlice

/-- The stages of what a host asks of a cabinet, for the length of a turn. -/
def ofCall [SoundChip S] (slice : Nat) : Cabinet.Call → List (Stage S)
  | .reset => [.board Board.machineReset, .resets, .lines]
  | .stepFrame =>
    .board Board.beginFrame :: ofFrame slice ++ [.board fun b => b.frameSync.2, .resets, .lines]

end Stage

namespace Machine

variable {σ S : Type}

theorem sum_budgets (slice total : Nat) : (budgets slice total).sum = total := by
  have hdivided := Nat.div_add_mod' total slice
  unfold budgets
  rw [List.sum_append, List.sum_replicate_nat]
  split
  · next hzero => rw [List.sum_nil]; omega
  · rw [List.sum_singleton]; omega

/-- A slice gives every processor the same. -/
theorem budgets_flatMap_ofSlice (p : Processor) (turns : List Nat) :
    Stage.budgets p (turns.flatMap (Stage.ofSlice (S := S))) = turns.sum := by
  have hslice (n : Nat) : Stage.budgets p (Stage.ofSlice (S := S) n) = n := by
    cases p <;> simp [Stage.budgets, Stage.ofSlice, Stage.budget]
  induction turns with
  | nil => rfl
  | cons n turns ih => rw [List.flatMap_cons, List.sum_cons, Stage.budgets_append, hslice, ih]

/-- **A frame gives every processor all of its cycles**, whatever the length of a turn. -/
theorem budgets_ofFrame (p : Processor) (slice : Nat) :
    Stage.budgets p (Stage.ofFrame (S := S) slice) = frameCycles := by
  have hresets : Stage.budgets p ([.resets, .lines] : List (Stage S)) = 0 := rfl
  show Stage.budgets p ([.resets, .lines] ++ (budgets slice frameCycles).flatMap Stage.ofSlice) = _
  rw [Stage.budgets_append, hresets, budgets_flatMap_ofSlice, sum_budgets, Nat.zero_add]

/-! ## Accounts -/

/-- From one machine to another a processor was given some cycles and took steps of some cycles. -/
structure Settles (p : Processor) (given : Nat) (costs : List Nat) (m n : Machine σ S) : Prop where
  credit : n.credit.get p = m.credit.get p + given - costs.sum
  cyclesRun : n.cyclesRun.get p = m.cyclesRun.get p + .ofNat costs.sum

section Settles

variable {p : Processor} {given given' : Nat} {spent spent' : List Nat} {m n k : Machine σ S}

theorem Settles.of_eq (hcredit : n.credit.get p = m.credit.get p)
    (hcycles : n.cyclesRun.get p = m.cyclesRun.get p) : m.Settles p 0 [] n :=
  ⟨by simp [hcredit], by simp [hcycles]⟩

theorem Settles.trans (h : m.Settles p given spent n) (h' : n.Settles p given' spent' k) :
    m.Settles p (given + given') (spent ++ spent') k where
  credit := by
    rw [h'.credit, h.credit, List.sum_append]
    omega
  cyclesRun := by
    rw [h'.cyclesRun, h.cyclesRun, List.sum_append, UInt64.ofNat_add, UInt64.add_assoc]

end Settles

variable [Interpreter σ]

/-! ## Stages of a run -/

section Stages

variable [SoundChip S]

/-- The machine after a stage. -/
def perform (m : Machine σ S) : Stage S → Machine σ S
  | .turn p n => m.takeTurn p n
  | .resets => m.applyResets
  | .lines => ((m.showLine .main).showLine .sub).showLine .sound
  | .board change => { m with board := change m.board }

/-- The machine after a list of stages. -/
def after (m : Machine σ S) (stages : List (Stage S)) : Machine σ S := stages.foldl perform m

theorem after_append (m : Machine σ S) (stages more : List (Stage S)) :
    m.after (stages ++ more) = (m.after stages).after more := List.foldl_append

theorem after_slices (m : Machine σ S) (budgets : List Nat) :
    m.after (budgets.flatMap Stage.ofSlice) = budgets.foldl runSlice m := by
  induction budgets generalizing m with
  | nil => rfl
  | cons n budgets ih =>
    rw [List.flatMap_cons, after_append]
    exact ih (m.runSlice n)

/-- **A frame is a list of stages**, the same for every machine with turns of that length. -/
theorem runFrame_eq_after (m : Machine σ S) : m.runFrame = m.after (Stage.ofFrame m.slice) :=
  (m.syncLines.after_slices _).symm

end Stages

/-! ## The cycles of a run -/

variable [SoundChip S]

/-- The cycles that the next step of a processor takes, at least one. -/
def stepCost (m : Machine σ S) (p : Processor) : Nat := max (m.stepResult p).1.1.toNat 1

/-- The cycles of the steps of a processor until its credit is spent. -/
def spendCosts (m : Machine σ S) (p : Processor) : List Nat :=
  if 0 < m.credit.get p then m.stepCost p :: spendCosts (m.takeStep p) p else []
termination_by (m.credit.get p).toNat
decreasing_by
  have := credit_takeStep_lt m p
  omega

/-- The cycles of the steps of a turn. -/
def turnCosts (m : Machine σ S) (p : Processor) (budget : Nat) : List Nat :=
  if m.board.isHeld p then []
  else { m with credit := m.credit.modify p fun n => n + budget }.spendCosts p

/-- The cycles of the steps of a processor in a stage. -/
def stageCosts (m : Machine σ S) (p : Processor) : Stage S → List Nat
  | .turn q n => if q = p then m.turnCosts p n else []
  | .resets | .lines | .board _ => []

/-- The cycles of the steps of a processor in a list of stages. -/
def costs (m : Machine σ S) (p : Processor) : List (Stage S) → List Nat
  | [] => []
  | stage :: stages => m.stageCosts p stage ++ (m.perform stage).costs p stages

/-- Whether a stage leaves the account of a processor open: it neither has a turn while it is held, nor
is reset. -/
def spares (m : Machine σ S) (p : Processor) : Stage S → Bool
  | .turn q _ => q != p || !m.board.isHeld p
  | .resets => !m.board.pendingReset.get p
  | .lines | .board _ => true

/-- A processor is neither held nor reset in any of the stages. -/
def Undisturbed (p : Processor) (m : Machine σ S) : List (Stage S) → Prop
  | [] => True
  | stage :: stages => m.spares p stage = true ∧ (m.perform stage).Undisturbed p stages

instance decidableUndisturbed (p : Processor) :
    (m : Machine σ S) → (stages : List (Stage S)) → Decidable (m.Undisturbed p stages)
  | _, [] => .isTrue trivial
  | m, stage :: stages =>
    @instDecidableAnd _ _ _ (decidableUndisturbed p (m.perform stage) stages)

/-! ## Turns -/

section Turns

variable {p : Processor} {C : Nat} {m : Machine σ S}

/-- A step is charged to the processor that takes it. -/
theorem takeStep_settles (m : Machine σ S) (p q : Processor) :
    m.Settles p 0 (if q = p then [m.stepCost q] else []) (m.takeStep q) := by
  rw [takeStep_eq]
  by_cases hqp : q = p
  · subst hqp
    rw [if_pos rfl]
    refine ⟨?_, ?_⟩
    · rw [PerProcessor.get_modify_self, List.sum_singleton]
      show m.credit.get q - (m.stepCost q : Int) = _
      omega
    · rw [PerProcessor.get_modify_self, List.sum_singleton]
      rfl
  · rw [if_neg hqp]
    refine .of_eq ?_ ?_
    · rw [PerProcessor.get_modify, if_neg hqp]
    · rw [PerProcessor.get_modify, if_neg hqp]

theorem spend_settles (m : Machine σ S) (p q : Processor) :
    m.Settles p 0 (if q = p then m.spendCosts q else []) (m.spend q) := by
  fun_induction spend m q with
  | case1 m hcredit ih =>
    rw [spendCosts, if_pos hcredit]
    have hrest := (m.takeStep_settles p q).trans ih
    by_cases hqp : q = p
    · rw [if_pos hqp, if_pos hqp] at hrest
      rw [if_pos hqp]
      exact hrest
    · rw [if_neg hqp, if_neg hqp] at hrest
      rw [if_neg hqp]
      exact hrest
  | case2 m hcredit =>
    rw [spendCosts, if_neg hcredit, ite_self]
    exact .of_eq rfl rfl

/-- A processor stops as soon as its credit is spent. -/
theorem credit_spend_nonpos (m : Machine σ S) (p : Processor) : (m.spend p).credit.get p ≤ 0 := by
  fun_induction spend m p with
  | case1 _ _ ih => exact ih
  | case2 m hcredit => omega

/-- **Only the last step can take more than is left**, so what is owed is less than one step. -/
theorem neg_lt_credit_spend (m : Machine σ S) (h : -(C : Int) < m.credit.get p)
    (hcosts : ∀ c ∈ m.spendCosts p, c ≤ C) : -(C : Int) < (m.spend p).credit.get p := by
  fun_induction spend m p with
  | case1 m hcredit ih =>
    rw [spendCosts, if_pos hcredit] at hcosts
    have hstep : m.stepCost p ≤ C := hcosts _ List.mem_cons_self
    have hleft : (m.takeStep p).credit.get p = m.credit.get p - m.stepCost p :=
      PerProcessor.get_modify_self _ _ _
    refine ih ?_ fun c hc => hcosts c (List.mem_cons_of_mem _ hc)
    -- something was left before this step
    omega
  | case2 => exact h

/-- A turn gives a processor its cycles, and charges it with its steps. -/
theorem takeTurn_settles (hheld : m.board.isHeld p = false) (n : Nat) :
    m.Settles p n (m.turnCosts p n) (m.takeTurn p n) := by
  unfold turnCosts takeTurn
  rw [hheld]
  simp only [Bool.false_eq_true, if_false]
  have hgiven : m.Settles p n [] { m with credit := m.credit.modify p fun k => k + n } :=
    ⟨by simp, by simp⟩
  have hspent := hgiven.trans (spend_settles _ p p)
  rw [if_pos rfl] at hspent
  exact hspent

/-- The turn of another processor leaves the account alone. -/
theorem takeTurn_settles_of_ne {q : Processor} (hqp : q ≠ p) (n : Nat) :
    m.Settles p 0 [] (m.takeTurn q n) := by
  unfold takeTurn
  split
  · exact .of_eq ((PerProcessor.get_set _ _ _ _).trans (if_neg hqp)) rfl
  · have hgiven : m.Settles p 0 [] { m with credit := m.credit.modify q fun k => k + n } :=
      .of_eq ((PerProcessor.get_modify _ _ _ _).trans (if_neg hqp)) rfl
    have hspent := hgiven.trans (spend_settles _ p q)
    rw [if_neg hqp] at hspent
    exact hspent

omit [SoundChip S] in
theorem applyResets_settles (hdue : m.board.pendingReset.get p = false) :
    m.Settles p 0 [] m.applyResets := by
  obtain ⟨j, hj⟩ := m.applyResets_eq
  rw [hj]
  refine .of_eq ?_ rfl
  show (PerProcessor.tabulate m.restartedCredit).get p = m.credit.get p
  rw [PerProcessor.get_tabulate, restartedCredit, hdue]
  rfl

/-- What a processor owes is less than `C` cycles. -/
def Owes (p : Processor) (C : Nat) (m : Machine σ S) : Prop :=
  -(C : Int) < m.credit.get p ∧ m.credit.get p ≤ 0

theorem Owes.takeTurn (h : m.Owes p C) (hheld : m.board.isHeld p = false) (n : Nat)
    (hcosts : ∀ c ∈ m.turnCosts p n, c ≤ C) : (m.takeTurn p n).Owes p C := by
  unfold turnCosts at hcosts
  unfold Machine.takeTurn
  rw [hheld] at hcosts ⊢
  simp only [Bool.false_eq_true, if_false] at hcosts ⊢
  refine ⟨neg_lt_credit_spend _ ?_ hcosts, credit_spend_nonpos _ p⟩
  rw [PerProcessor.get_modify_self]
  have := h.1
  omega

omit [Interpreter σ] [SoundChip S] in
/-- An account that was left alone owes what it owed. -/
theorem Owes.of_settles {n : Machine σ S} (h : m.Owes p C) (hs : m.Settles p 0 [] n) : n.Owes p C := by
  have hcredit := hs.credit
  obtain ⟨hlow, hhigh⟩ := h
  rw [List.sum_nil] at hcredit
  constructor <;> omega

end Turns

/-! ## Stages -/

section Run

variable {p : Processor} {C : Nat} {m : Machine σ S}

/-- **One stage is charged like this** to a processor that it spares. -/
theorem perform_settles {stage : Stage S} (h : m.spares p stage = true) :
    m.Settles p (stage.budget p) (m.stageCosts p stage) (m.perform stage) := by
  cases stage with
  | turn q n =>
    show m.Settles p (if q = p then n else 0) (if q = p then m.turnCosts p n else []) (m.takeTurn q n)
    by_cases hqp : q = p
    · subst hqp
      have hheld : m.board.isHeld q = false := by simpa [spares] using h
      rw [if_pos rfl, if_pos rfl]
      exact takeTurn_settles hheld n
    · rw [if_neg hqp, if_neg hqp]
      exact takeTurn_settles_of_ne hqp n
  | resets => exact applyResets_settles (by simpa [spares] using h)
  | lines | board _ => exact .of_eq rfl rfl

theorem Owes.perform (h : m.Owes p C) {stage : Stage S} (hspares : m.spares p stage = true)
    (hcosts : ∀ c ∈ m.stageCosts p stage, c ≤ C) : (m.perform stage).Owes p C := by
  cases stage with
  | turn q n =>
    by_cases hqp : q = p
    · subst hqp
      have hheld : m.board.isHeld q = false := by simpa [spares] using hspares
      have hturn : ∀ c ∈ m.turnCosts q n, c ≤ C := by simpa [stageCosts] using hcosts
      exact h.takeTurn hheld n hturn
    · exact h.of_settles (takeTurn_settles_of_ne hqp n)
  | resets => exact h.of_settles (perform_settles hspares)
  | lines | board _ => exact h

/-- **The account of a processor over a whole run** in which it is neither held nor reset. -/
theorem after_settles {stages : List (Stage S)} (h : m.Undisturbed p stages) :
    m.Settles p (Stage.budgets p stages) (m.costs p stages) (m.after stages) := by
  induction stages generalizing m with
  | nil => exact .of_eq rfl rfl
  | cons stage stages ih =>
    obtain ⟨hstage, hrest⟩ := h
    exact (perform_settles hstage).trans (ih hrest)

theorem Owes.after (h : m.Owes p C) {stages : List (Stage S)} (hrun : m.Undisturbed p stages)
    (hcosts : ∀ c ∈ m.costs p stages, c ≤ C) : (m.after stages).Owes p C := by
  induction stages generalizing m with
  | nil => exact h
  | cons stage stages ih =>
    obtain ⟨hstage, hrest⟩ := hrun
    have hnext := h.perform hstage fun c hc => hcosts c (List.mem_append_left _ hc)
    exact ih hnext hrest fun c hc => hcosts c (List.mem_append_right _ hc)

end Run

end Machine

namespace Cabinet

variable {σ S : Type} [Interpreter σ] [SoundChip S]

theorem machine_perform_eq_after (s : Cabinet σ S) (call : Call) :
    (s.perform call).machine = s.machine.after (Stage.ofCall s.machine.slice call) := by
  cases call with
  | reset => rfl
  | stepFrame =>
    let begun : Machine σ S := { s.machine with board := s.machine.board.beginFrame }
    show (({ begun.runFrame with board := begun.runFrame.board.frameSync.2 } : Machine σ S).syncLines) =
      (begun.after (Stage.ofFrame begun.slice ++ [.board fun b => b.frameSync.2, .resets, .lines]))
    rw [Machine.after_append, ← Machine.runFrame_eq_after]
    rfl

theorem slice_perform (s : Cabinet σ S) (call : Call) :
    (s.perform call).machine.slice = s.machine.slice := by
  cases call with
  | reset => exact (Machine.syncLines_ran _).slice
  | stepFrame => exact s.stepFrame_ran.slice

/-- **Whatever a host asks of a cabinet is a list of stages** of its machine. -/
theorem run_eq_after (s : Cabinet σ S) (calls : List Call) :
    (s.run calls).machine = s.machine.after (calls.flatMap (Stage.ofCall s.machine.slice)) := by
  induction calls generalizing s with
  | nil => rfl
  | cons call calls ih =>
    show ((s.perform call).run calls).machine = _
    rw [ih, slice_perform, machine_perform_eq_after, List.flatMap_cons, Machine.after_append]

end Cabinet

namespace Machine

variable {σ S : Type} [Interpreter σ] [SoundChip S]

/-! ## No drift -/

/-- **What a processor spends does not drift from what it is given.** Every run of a cabinet is a list of
stages, and each frame in it gives every processor exactly the cycles of a frame. Take any stretch of
stages in which a processor is neither held nor reset and which it begins with nothing to spend and
nothing owed, as it does just after a reset and just after a hold. If no step of it takes more than `C`
cycles, it spends what it was given and less than `C` more. The excess is what it owes at the end, and
the count of its cycles has grown by what it spent. A processor that is held is given nothing and takes
no step. -/
theorem cycles_follow_budgets (p : Processor) :
    (∀ (s : Cabinet σ S) calls,
      (s.run calls).machine = s.machine.after (calls.flatMap (Stage.ofCall s.machine.slice))) ∧
    (∀ slice, Stage.budgets p (Stage.ofFrame (S := S) slice) = frameCycles) ∧
    (∀ (m : Machine σ S) (stretch : List (Stage S)) (C : Nat),
      m.credit.get p = 0 → m.Undisturbed p stretch → 1 ≤ C → (∀ c ∈ m.costs p stretch, c ≤ C) →
        let given := Stage.budgets p stretch
        let spent := (m.costs p stretch).sum
        given ≤ spent ∧ spent < given + C ∧
          (m.after stretch).credit.get p = given - spent ∧
          (m.after stretch).cyclesRun.get p = m.cyclesRun.get p + .ofNat spent) ∧
    (∀ m : Machine σ S, m.board.pendingReset.get p = true → m.applyResets.credit.get p = 0) ∧
    ∀ (m : Machine σ S) n, m.board.isHeld p = true →
      m.takeTurn p n = { m with credit := m.credit.set p 0 } ∧ m.turnCosts p n = [] := by
  refine ⟨fun s calls => s.run_eq_after calls, budgets_ofFrame p, ?_, ?_, ?_⟩
  · intro m stretch C hzero hrun hC hcosts given spent
    have hsettles := after_settles hrun
    have howes : m.Owes p C := ⟨by omega, by omega⟩
    obtain ⟨hlow, hhigh⟩ := howes.after hrun hcosts
    have hcredit : (m.after stretch).credit.get p = (given : Int) - spent := by
      rw [hsettles.credit, hzero, Int.zero_add]
    rw [hcredit] at hlow hhigh
    exact ⟨by omega, by omega, hcredit, hsettles.cyclesRun⟩
  · intro m hdue
    obtain ⟨j, hj⟩ := m.applyResets_eq
    rw [hj]
    show (PerProcessor.tabulate m.restartedCredit).get p = 0
    rw [PerProcessor.get_tabulate, restartedCredit, hdue]
    rfl
  · intro m n hheld
    unfold takeTurn turnCosts
    rw [hheld]
    exact ⟨rfl, rfl⟩

/-- Two frames of three turns each. The steps of main take 7000 cycles and the turns give 10000, 10000 and
5344, so that no turn ends with a step. Eight steps are taken for two frames, and 5312 cycles are owed. -/
theorem cycles_follow_budgets_two_frames :
    let config := { Config.standard with sliceCycles := 10000 }
    let interpreters : PerProcessor FixedCost := ⟨.ofCost 7000, .ofCost 0, .ofCost 1⟩
    let s := Cabinet.stock config (Revision.all.head nofun) interpreters SoundRegisters.silent .silent
    let m := s.reset.machine
    let stretch := [Cabinet.Call.stepFrame, .stepFrame].flatMap (Stage.ofCall 10000)
    m.credit.get .main = 0 ∧ m.Undisturbed .main stretch ∧
      m.costs .main stretch = List.replicate 8 7000 ∧
      ((s.reset.run [.stepFrame, .stepFrame]).machine.credit.get .main = -5312) ∧
      (s.reset.run [.stepFrame, .stepFrame]).machine.cyclesRun.get .main = 56000 := by
  intro config interpreters s m stretch
  have hzero : m.credit.get .main = 0 := by decide +kernel
  have hrun : m.Undisturbed .main stretch := by decide +kernel
  have hcosts : m.costs .main stretch = List.replicate 8 7000 := by decide +kernel
  have hbefore : m.cyclesRun.get .main = 0 := by decide +kernel
  have hgiven : Stage.budgets .main stretch = 50688 := by decide +kernel
  obtain ⟨hstages, -, hlaw, -⟩ := cycles_follow_budgets (σ := FixedCost) (S := SoundRegisters) .main
  have hstretch : (s.reset.run [.stepFrame, .stepFrame]).machine = m.after stretch := hstages s.reset _
  obtain ⟨-, -, hcredit, hcycles⟩ := hlaw m stretch 7000 hzero hrun (by decide) (by
    rw [hcosts]
    exact fun c hc => Nat.le_of_eq (List.eq_of_mem_replicate hc))
  rw [hstretch, hcredit, hcycles, hcosts, hgiven, hbefore]
  exact ⟨hzero, hrun, rfl, rfl, rfl⟩

end Machine

end Arcade
