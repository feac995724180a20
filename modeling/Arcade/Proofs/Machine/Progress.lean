import Arcade.Proofs.Cabinet.Reachable
import Arcade.Proofs.Machine.Accounts
import Mathlib.Algebra.Order.Floor.Div

/-!
# `Arcade.Proofs.Machine.Progress` — a frame always ends

`Machine.runFrame` goes through a list of turns that is complete before the first of them begins. Here a
frame is a loop that has no such list. It does one thing at a time and goes by what it finds: a round is
begun while cycles of the frame remain, and a step is taken while the processor whose turn it is has
something left to spend. Nothing in a single pass of the loop says that it is ever left.

What does say so is what the passes keep. Before a turn nothing is left to spend from earlier turns, so a
turn has no more steps than cycles; and every round takes something off what remains of the frame. Each of
these facts is a lemma about one pass first, and then about any number of passes.

## Contents
- `Phase`, `Progress`, `Progress.next`: the loop, one pass at a time; `Passes`: several passes.
- `passes_spend`, `passes_turn`, `passes_slice`, `passes_rounds`: the loop is left, and with what
  `runFrame` gives.
- `Progress.InRange`, and that a pass keeps it: what can be left to spend, and what can be owed.
- `Progress.roundsLeft`, `Progress.stepsLeft`: what a pass takes off the rounds and steps to come.
- `Machine.Reachable`: what a machine can have become, on any boards; those in cabinets are among them.
- `Machine.frame_ends`.
-/

namespace Arcade

/-! ## The loop -/

/-- The processors whose turns come later in a round. -/
def Processor.later : Processor → List Processor
  | .main => [.sub, .sound]
  | .sub => [.sound]
  | .sound => []

/-- What a machine does next within its frame. -/
inductive Phase
  /-- It begins a round, if any cycles of the frame remain. -/
  | round
  /-- It begins the turn of a processor. -/
  | turn (p : Processor) (budget : Nat)
  /-- It takes a step of a processor, if that has anything left to spend. -/
  | stepping (p : Processor) (budget : Nat)
  /-- It applies the resets that came up in the turn of a processor. -/
  | ending (p : Processor) (budget : Nat)
  deriving DecidableEq, Repr

/-- A machine within its frame. -/
structure Progress (σ S : Type) where
  machine : Machine σ S
  /-- The cycles of the frame for which no round is over yet. -/
  remaining : Nat
  phase : Phase

namespace Progress

variable {σ S : Type} [Interpreter σ] [SoundChip S]

/-- One pass of the loop, or nothing if the frame is over. -/
def next (c : Progress σ S) : Option (Progress σ S) :=
  match c.phase with
  | .round =>
    if 0 < c.remaining then some { c with phase := .turn .main (min c.machine.slice c.remaining) }
    else none
  | .turn p n =>
    if c.machine.board.isHeld p then
      some { c with machine := { c.machine with credit := c.machine.credit.set p 0 }, phase := .ending p n }
    else
      some
        { c with
          machine := { c.machine with credit := c.machine.credit.modify p fun k => k + n }
          phase := .stepping p n }
  | .stepping p n =>
    if 0 < c.machine.credit.get p then some { c with machine := c.machine.takeStep p }
    else some { c with phase := .ending p n }
  | .ending p n =>
    match p.later with
    | q :: _ => some { c with machine := c.machine.applyResets, phase := .turn q n }
    | [] => some { machine := c.machine.applyResets, remaining := c.remaining - n, phase := .round }

/-- The loop before its first pass. -/
def start (m : Machine σ S) : Progress σ S :=
  { machine := m.syncLines, remaining := Machine.frameCycles, phase := .round }

/-- Whether the next pass is a step of a processor. -/
def takesStep (p : Processor) (c : Progress σ S) : Bool :=
  match c.phase with
  | .stepping q _ => q = p && 0 < c.machine.credit.get p
  | .round | .turn _ _ | .ending _ _ => false

/-- Passes of the loop lead from one progress to another, through a list that holds where each of them
began. -/
inductive Passes : Progress σ S → List (Progress σ S) → Progress σ S → Prop
  | refl {c : Progress σ S} : Passes c [] c
  | step {c d e : Progress σ S} {seen : List (Progress σ S)} (h : c.next = some d)
      (rest : Passes d seen e) : Passes c (c :: seen) e

theorem Passes.trans {c d e : Progress σ S} {seen more : List (Progress σ S)} (h : Passes c seen d)
    (h' : Passes d more e) : Passes c (seen ++ more) e := by
  induction h with
  | refl => exact h'
  | step hnext _ ih => exact .step hnext (ih h')

/-- A stretch of the way is a way of its own. -/
theorem Passes.split {c e : Progress σ S} {seen more : List (Progress σ S)}
    (h : Passes c (seen ++ more) e) : ∃ d, Passes c seen d ∧ Passes d more e := by
  induction seen generalizing c with
  | nil => exact ⟨c, .refl, h⟩
  | cons c' seen ih =>
    cases h with
    | step hnext rest =>
      obtain ⟨d, hseen, hmore⟩ := ih rest
      exact ⟨d, .step hnext hseen, hmore⟩

/-! ## The loop is left -/

/-- The steps of a turn come to an end. -/
theorem passes_spend (m : Machine σ S) (p : Processor) (n remaining : Nat) :
    ∃ seen, Passes ⟨m, remaining, .stepping p n⟩ seen ⟨m.spend p, remaining, .ending p n⟩ := by
  fun_induction Machine.spend m p with
  | case1 m hcredit ih =>
    obtain ⟨seen, hrest⟩ := ih
    exact ⟨_, .step (if_pos hcredit) hrest⟩
  | case2 m hcredit => exact ⟨_, .step (if_neg hcredit) .refl⟩

theorem passes_turn (m : Machine σ S) (p : Processor) (n remaining : Nat) :
    ∃ seen, Passes ⟨m, remaining, .turn p n⟩ seen ⟨m.takeTurn p n, remaining, .ending p n⟩ := by
  unfold Machine.takeTurn
  by_cases hheld : m.board.isHeld p = true
  · rw [if_pos hheld]
    exact ⟨_, .step (if_pos hheld) .refl⟩
  · rw [if_neg hheld]
    obtain ⟨seen, hsteps⟩ :=
      passes_spend { m with credit := m.credit.modify p fun k => k + n } p n remaining
    exact ⟨_, .step (if_neg hheld) hsteps⟩

/-- A round gives every processor a turn, and takes the cycles of a turn off what remains. -/
theorem passes_slice (m : Machine σ S) (n remaining : Nat) :
    ∃ seen, Passes ⟨m, remaining, .turn .main n⟩ seen ⟨m.runSlice n, remaining - n, .round⟩ := by
  obtain ⟨_, hmain⟩ := passes_turn m .main n remaining
  obtain ⟨_, hsub⟩ := passes_turn (m.takeTurn .main n).applyResets .sub n remaining
  obtain ⟨_, hsound⟩ :=
    passes_turn ((m.takeTurn .main n).applyResets.takeTurn .sub n).applyResets .sound n remaining
  have hlast : Passes ⟨_, remaining, .ending .sound n⟩ _ ⟨m.runSlice n, remaining - n, .round⟩ :=
    .step rfl .refl
  exact ⟨_, hmain.trans (.step rfl (hsub.trans (.step rfl (hsound.trans hlast))))⟩

end Progress

/-- A turn is as long as turns are, or as what remains if that is less. -/
theorem Machine.budgets_cons {slice total : Nat} (hslice : 0 < slice) (htotal : 0 < total) :
    budgets slice total = min slice total :: budgets slice (total - min slice total) := by
  unfold budgets
  by_cases hle : slice ≤ total
  · have hdiv : total / slice = (total - slice) / slice + 1 := Nat.div_eq_sub_div hslice hle
    have hmod : total % slice = (total - slice) % slice := Nat.mod_eq_sub_mod hle
    rw [Nat.min_eq_left hle, hdiv, hmod]
    rfl
  · have hlt : total < slice := Nat.lt_of_not_le hle
    have hzero : ¬ total % slice = 0 := by
      rw [Nat.mod_eq_of_lt hlt]
      omega
    rw [Nat.min_eq_right hlt.le, Nat.div_eq_of_lt hlt, if_neg hzero, Nat.mod_eq_of_lt hlt, Nat.sub_self]
    simp

namespace Progress

variable {σ S : Type} [Interpreter σ] [SoundChip S]

/-- **The rounds come to an end**, with the machine that a fold over the turns gives. -/
theorem passes_rounds (m : Machine σ S) (hslice : 0 < m.slice) (remaining : Nat) :
    ∃ seen, Passes ⟨m, remaining, .round⟩ seen
      ⟨(Machine.budgets m.slice remaining).foldl Machine.runSlice m, 0, .round⟩ := by
  -- on what remains of the frame: as turns are never of length zero, every round takes something off it
  induction remaining using Nat.strongRecOn generalizing m with
  | ind remaining ih =>
    by_cases hremaining : 0 < remaining
    · have hless : remaining - min m.slice remaining < remaining := by omega
      have hkept : (m.runSlice (min m.slice remaining)).slice = m.slice := (m.runSlice_ran _).slice
      obtain ⟨_, hround⟩ := passes_slice m (min m.slice remaining) remaining
      obtain ⟨_, hrest⟩ := ih _ hless (m.runSlice (min m.slice remaining)) (hslice.trans_eq hkept.symm)
      rw [hkept] at hrest
      rw [Machine.budgets_cons hslice hremaining]
      exact ⟨_, .step (if_pos hremaining) (hround.trans hrest)⟩
    · obtain rfl : remaining = 0 := by omega
      have hnone : Machine.budgets m.slice 0 = [] := by simp [Machine.budgets]
      rw [hnone]
      exact ⟨_, .refl⟩

/-! ## What one pass can do -/

/-- The cases of a pass. -/
inductive Pass : Progress σ S → Progress σ S → Prop
  | begun {m : Machine σ S} {r : Nat} (h : 0 < r) :
      Pass ⟨m, r, .round⟩ ⟨m, r, .turn .main (min m.slice r)⟩
  | held {m : Machine σ S} {r : Nat} (p : Processor) (n : Nat) :
      Pass ⟨m, r, .turn p n⟩ ⟨{ m with credit := m.credit.set p 0 }, r, .ending p n⟩
  | given {m : Machine σ S} {r : Nat} (p : Processor) (n : Nat) :
      Pass ⟨m, r, .turn p n⟩ ⟨{ m with credit := m.credit.modify p fun k => k + n }, r, .stepping p n⟩
  | stepped {m : Machine σ S} {r : Nat} {p : Processor} (n : Nat) (h : 0 < m.credit.get p) :
      Pass ⟨m, r, .stepping p n⟩ ⟨m.takeStep p, r, .stepping p n⟩
  | spent {m : Machine σ S} {r : Nat} {p : Processor} (n : Nat) (h : m.credit.get p ≤ 0) :
      Pass ⟨m, r, .stepping p n⟩ ⟨m, r, .ending p n⟩
  | turned {m : Machine σ S} {r : Nat} {p q : Processor} (n : Nat) (h : p.later = q :: q.later) :
      Pass ⟨m, r, .ending p n⟩ ⟨m.applyResets, r, .turn q n⟩
  | ended {m : Machine σ S} {r : Nat} {p : Processor} (n : Nat) (h : p.later = []) :
      Pass ⟨m, r, .ending p n⟩ ⟨m.applyResets, r - n, .round⟩

variable {c d e : Progress σ S} {seen : List (Progress σ S)}

theorem pass_of_next (h : c.next = some d) : Pass c d := by
  obtain ⟨m, r, phase⟩ := c
  cases phase with
  | round =>
    simp only [next] at h
    split at h
    · next hr => cases h; exact .begun hr
    · cases h
  | turn p n =>
    simp only [next] at h
    split at h
    · cases h; exact .held p n
    · cases h; exact .given p n
  | stepping p n =>
    simp only [next] at h
    split at h
    · next hcredit => cases h; exact .stepped n hcredit
    · next hcredit => cases h; exact .spent n (Int.not_lt.mp hcredit)
  | ending p n =>
    cases p <;> cases h
    · exact .turned n rfl
    · exact .turned n rfl
    · exact .ended n rfl

/-- **What a pass keeps, passes keep**, and it held wherever one of them began. -/
theorem Passes.induction {P : Progress σ S → Prop} (hstep : ∀ c d, P c → c.next = some d → P d)
    (h : Passes c seen d) (hc : P c) : P d ∧ ∀ e ∈ seen, P e := by
  induction h with
  | refl => exact ⟨hc, List.forall_mem_nil _⟩
  | @step c _ _ _ hnext _ ih =>
    obtain ⟨hlast, hseen⟩ := ih (hstep _ _ hc hnext)
    refine ⟨hlast, ?_⟩
    intro e he
    rcases List.mem_cons.mp he with rfl | he
    · exact hc
    · exact hseen e he

/-! ## What can be left and what can be owed -/

end Progress

/-- The cycles that the round which is under way gives to a processor. -/
def Phase.budget : Phase → Nat
  | .round => 0
  | .turn _ n | .stepping _ n | .ending _ n => n

/-- The most that a processor can have left to spend: nothing, unless it is taking its steps. -/
def Phase.allowance (q : Processor) : Phase → Nat
  | .stepping p n => if p = q then n else 0
  | .round | .turn _ _ | .ending _ _ => 0

theorem Phase.allowance_le (q : Processor) (phase : Phase) : phase.allowance q ≤ phase.budget := by
  cases phase with
  | stepping p n =>
    show (if p = q then n else 0) ≤ n
    split <;> omega
  | round | turn | ending => exact Nat.zero_le _

theorem Phase.allowance_of_ne {q : Processor} {phase : Phase} (h : ∀ n, phase ≠ .stepping q n) :
    phase.allowance q = 0 := by
  cases phase with
  | stepping p n =>
    have hpq : p ≠ q := by
      rintro rfl
      exact h n rfl
    exact if_neg hpq
  | round | turn | ending => rfl

/-- No processor has more left than its turn gave it, or owes as much as no step can take. -/
structure Progress.InRange {σ S : Type} (c : Progress σ S) : Prop where
  budget_le : c.phase.budget ≤ c.remaining
  remaining_le : c.remaining ≤ Machine.frameCycles
  owed : ∀ q, -(2 ^ 32 : Int) < c.machine.credit.get q
  left : ∀ q, c.machine.credit.get q ≤ c.phase.allowance q

namespace Machine

variable {σ S : Type} [Interpreter σ]

/-- Applying resets forgets what is left or owed, or leaves it as it is. -/
theorem credit_applyResets (m : Machine σ S) (q : Processor) :
    m.applyResets.credit.get q = 0 ∨ m.applyResets.credit.get q = m.credit.get q := by
  obtain ⟨j, hj⟩ := m.applyResets_eq
  rw [hj]
  show (PerProcessor.tabulate m.restartedCredit).get q = 0 ∨ _
  rw [PerProcessor.get_tabulate, restartedCredit]
  split
  · exact .inl rfl
  · exact .inr rfl

theorem toNat_credit_applyResets_le (m : Machine σ S) (q : Processor) :
    (m.applyResets.credit.get q).toNat ≤ (m.credit.get q).toNat := by
  rcases m.credit_applyResets q with hzero | hsame
  · rw [hzero]
    exact Nat.zero_le _
  · rw [hsame]

/-- Resets can only bring what is owed to nothing. -/
theorem Owes.applyResets {m : Machine σ S} {q : Processor} {C : Nat} (h : m.Owes q C) :
    m.applyResets.Owes q C := by
  obtain ⟨hlow, hhigh⟩ := h
  unfold Owes
  rcases m.credit_applyResets q with hzero | hsame
  · rw [hzero]
    omega
  · rw [hsame]
    exact ⟨hlow, hhigh⟩

/-- A step is charged to the processor that takes it, at one cycle or more, and less than `2 ^ 32`. -/
theorem credit_takeStep [SoundChip S] (m : Machine σ S) (p q : Processor) :
    ∃ cost : Nat, 1 ≤ cost ∧ cost < 2 ^ 32 ∧
      (m.takeStep p).credit.get q = m.credit.get q - if p = q then (cost : Int) else 0 := by
  have hword := (m.stepResult p).1.1.toNat_lt
  refine ⟨max (m.stepResult p).1.1.toNat 1, by omega, by omega, ?_⟩
  rw [takeStep_eq, PerProcessor.get_modify]
  split
  · rfl
  · omega

end Machine

namespace Progress

variable {σ S : Type} [Interpreter σ] [SoundChip S] {c d : Progress σ S}

/-- **A pass stays in range.** -/
theorem InRange.next (h : c.InRange) (hnext : c.next = some d) : d.InRange := by
  obtain ⟨hbudget, hremaining, howed, hleft⟩ := h
  -- once the steps of a turn are over nobody has anything left, and the resets keep that so
  have hreset (hphase : ∀ q, c.phase.allowance q = 0) (q : Processor) :
      c.machine.applyResets.Owes q (2 ^ 32) := by
    have hnothing := hleft q
    rw [hphase q] at hnothing
    exact Machine.Owes.applyResets ⟨howed q, hnothing⟩
  cases pass_of_next hnext with
  | begun hr => exact ⟨Nat.min_le_right _ _, hremaining, howed, hleft⟩
  | @held m r p n =>
    have hset (q : Processor) : (m.credit.set p 0).get q = if p = q then 0 else m.credit.get q :=
      PerProcessor.get_set _ _ _ _
    refine ⟨hbudget, hremaining, ?_, ?_⟩
    · intro q
      have hlow : -(2 ^ 32 : Int) < m.credit.get q := howed q
      show _ < (m.credit.set p 0).get q
      rw [hset]
      split <;> omega
    · intro q
      have hhigh : m.credit.get q ≤ 0 := hleft q
      show (m.credit.set p 0).get q ≤ 0
      rw [hset]
      split <;> omega
  | @given m r p n =>
    have hgiven (q : Processor) : (m.credit.modify p fun k => k + n).get q =
        if p = q then m.credit.get q + n else m.credit.get q := PerProcessor.get_modify _ _ _ _
    refine ⟨hbudget, hremaining, ?_, ?_⟩
    · intro q
      have hlow : -(2 ^ 32 : Int) < m.credit.get q := howed q
      show _ < (m.credit.modify p fun k => k + n).get q
      rw [hgiven]
      split <;> omega
    · intro q
      have hhigh : m.credit.get q ≤ 0 := hleft q
      show (m.credit.modify p fun k => k + n).get q ≤ ((if p = q then n else 0 : Nat) : Int)
      rw [hgiven]
      split <;> omega
  | @stepped m r p n hcredit =>
    refine ⟨hbudget, hremaining, ?_, ?_⟩
    · intro q
      have hlow : -(2 ^ 32 : Int) < m.credit.get q := howed q
      obtain ⟨cost, hone, hword, hcharged⟩ := m.credit_takeStep p q
      show _ < (m.takeStep p).credit.get q
      rw [hcharged]
      by_cases hpq : p = q
      · -- something was left before this step, so less than the step takes is owed
        subst hpq
        rw [if_pos rfl]
        omega
      · rw [if_neg hpq]
        omega
    · intro q
      have hhigh : m.credit.get q ≤ ((if p = q then n else 0 : Nat) : Int) := hleft q
      obtain ⟨cost, -, -, hcharged⟩ := m.credit_takeStep p q
      have hless : (m.takeStep p).credit.get q ≤ m.credit.get q := by
        rw [hcharged]
        split <;> omega
      exact hless.trans hhigh
  | @spent m r p n hcredit =>
    refine ⟨hbudget, hremaining, howed, ?_⟩
    intro q
    have hhigh : m.credit.get q ≤ ((if p = q then n else 0 : Nat) : Int) := hleft q
    show m.credit.get q ≤ 0
    by_cases hpq : p = q
    · exact hpq ▸ hcredit
    · rwa [if_neg hpq] at hhigh
  | turned n hlater =>
    have hzero := hreset fun _ => rfl
    exact ⟨hbudget, hremaining, fun q => (hzero q).1, fun q => (hzero q).2⟩
  | ended n hlater =>
    have hzero := hreset fun _ => rfl
    exact ⟨Nat.zero_le _, (Nat.sub_le _ _).trans hremaining, fun q => (hzero q).1, fun q => (hzero q).2⟩

/-! ## How many rounds and how many steps are to come -/

theorem slice_of_next (hnext : c.next = some d) : d.machine.slice = c.machine.slice := by
  cases pass_of_next hnext with
  | begun | held | given | spent => rfl
  | @stepped m r p n => exact (m.takeStep_ran p).slice
  | @turned m | @ended m => exact m.applyResets_ran.slice

/-- How many rounds are still to begin. -/
def roundsLeft (c : Progress σ S) : Nat := (c.remaining - c.phase.budget) ⌈/⌉ c.machine.slice

/-- **Only the beginning of a round takes one off the rounds that are to come.** -/
theorem roundsLeft_of_next (hslice : 0 < c.machine.slice) (hnext : c.next = some d) :
    c.roundsLeft = (if c.phase = .round then 1 else 0) + d.roundsLeft := by
  have hkept := slice_of_next hnext
  cases pass_of_next hnext with
  | @begun m r hr =>
    have hround : 0 < m.slice := hslice
    show r ⌈/⌉ m.slice = 1 + (r - min m.slice r) ⌈/⌉ m.slice
    rw [Nat.ceilDiv_eq_add_pred_div, Nat.ceilDiv_eq_add_pred_div]
    by_cases hle : m.slice ≤ r
    · have hsplit : r + m.slice - 1 = (r - m.slice + m.slice - 1) + m.slice := by omega
      rw [Nat.min_eq_left hle, hsplit, Nat.add_div_right _ hround, Nat.add_comm]
    · have hlast : (r + m.slice - 1) / m.slice = 1 := Nat.div_eq_of_lt_le (by omega) (by omega)
      have hnone : (r - r + m.slice - 1) / m.slice = 0 := Nat.div_eq_of_lt (by omega)
      rw [Nat.min_eq_right (by omega), hlast, hnone]
  | held | given | stepped | spent | turned | ended =>
    unfold roundsLeft
    rw [hkept]
    exact (Nat.zero_add _).symm

end Progress

/-- The cycles that the rest of a round still gives to a processor. -/
def Phase.toCome (p : Processor) : Phase → Nat
  | .round => 0
  | .turn q n => (if q = p then n else 0) + if p ∈ q.later then n else 0
  | .stepping q n | .ending q n => if p ∈ q.later then n else 0

/-- The turns that are to come after one has ended are the next one and those after it. -/
theorem Phase.toCome_ending {q q' : Processor} (h : q.later = q' :: q'.later) (p : Processor) (n : Nat) :
    (Phase.ending q n).toCome p = (Phase.turn q' n).toCome p := by
  show (if p ∈ q.later then n else 0) = (if q' = p then n else 0) + if p ∈ q'.later then n else 0
  rw [h]
  cases q' <;> cases p <;> simp [Processor.later]

namespace Progress

variable {σ S : Type} [Interpreter σ] [SoundChip S] {c d : Progress σ S}

/-- The most steps that a processor can still take: one for each cycle that is left to it or still to
come. -/
def stepsLeft (p : Processor) (c : Progress σ S) : Nat :=
  (c.machine.credit.get p).toNat + c.phase.toCome p + (c.remaining - c.phase.budget)

/-- **A step takes at least one off the steps that can still be taken**, and no pass adds any. -/
theorem stepsLeft_of_next (h : c.InRange) (p : Processor) (hnext : c.next = some d) :
    (if c.takesStep p then 1 else 0) + d.stepsLeft p ≤ c.stepsLeft p := by
  cases pass_of_next hnext with
  | @begun m r hr =>
    -- each processor has one turn in a round, so a round is to give it no more than it takes off
    have hgiven : (Phase.turn .main (min m.slice r)).toCome p ≤ min m.slice r := by
      cases p <;> simp [Phase.toCome, Processor.later]
    show 0 + ((m.credit.get p).toNat + (Phase.turn .main (min m.slice r)).toCome p + (r - min m.slice r)) ≤
      (m.credit.get p).toNat + 0 + (r - 0)
    omega
  | @held m r q n =>
    have hset : (m.credit.set q 0).get p = if q = p then 0 else m.credit.get p := PerProcessor.get_set _ _ _ _
    show 0 + (((m.credit.set q 0).get p).toNat + (if p ∈ q.later then n else 0) + (r - n)) ≤
      (m.credit.get p).toNat + ((if q = p then n else 0) + if p ∈ q.later then n else 0) + (r - n)
    rw [hset]
    by_cases hqp : q = p
    · rw [if_pos hqp, if_pos hqp]
      omega
    · rw [if_neg hqp, if_neg hqp]
      omega
  | @given m r q n =>
    have hgiven : (m.credit.modify q fun k => k + n).get p =
        if q = p then m.credit.get p + n else m.credit.get p := PerProcessor.get_modify _ _ _ _
    -- what a turn was to give becomes what is left to spend, where nothing was left before
    have hnothing : m.credit.get p ≤ 0 := h.left p
    show 0 + (((m.credit.modify q fun k => k + n).get p).toNat + (if p ∈ q.later then n else 0) + (r - n)) ≤
      (m.credit.get p).toNat + ((if q = p then n else 0) + if p ∈ q.later then n else 0) + (r - n)
    rw [hgiven]
    by_cases hqp : q = p
    · rw [if_pos hqp, if_pos hqp]
      omega
    · rw [if_neg hqp, if_neg hqp]
      omega
  | @stepped m r q n hcredit =>
    obtain ⟨cost, hone, -, hcharged⟩ := m.credit_takeStep q p
    show (if (decide (q = p) && decide (0 < m.credit.get p)) = true then 1 else 0) +
        (((m.takeStep q).credit.get p).toNat + (if p ∈ q.later then n else 0) + (r - n)) ≤
      (m.credit.get p).toNat + (if p ∈ q.later then n else 0) + (r - n)
    rw [hcharged]
    by_cases hqp : q = p
    · subst hqp
      rw [if_pos rfl, if_pos (by simpa using hcredit)]
      omega
    · rw [if_neg hqp, if_neg (by simp [hqp])]
      omega
  | @spent m r q n hcredit =>
    have hno : (decide (q = p) && decide (0 < m.credit.get p)) = false := by
      by_cases hqp : q = p
      · subst hqp
        simpa using hcredit
      · simp [hqp]
    show (if (decide (q = p) && decide (0 < m.credit.get p)) = true then 1 else 0) +
        ((m.credit.get p).toNat + (if p ∈ q.later then n else 0) + (r - n)) ≤
      (m.credit.get p).toNat + (if p ∈ q.later then n else 0) + (r - n)
    rw [hno]
    exact (Nat.zero_add _).le
  | @turned m r q q' n hlater =>
    have hless := m.toNat_credit_applyResets_le p
    show 0 + ((m.applyResets.credit.get p).toNat + (Phase.turn q' n).toCome p + (r - n)) ≤
      (m.credit.get p).toNat + (Phase.ending q n).toCome p + (r - n)
    rw [Phase.toCome_ending hlater]
    omega
  | @ended m r q n hlater =>
    -- the round is taken off what remains only now, but its cycles were counted with the round already
    have hless := m.toNat_credit_applyResets_le p
    show 0 + ((m.applyResets.credit.get p).toNat + 0 + (r - n - 0)) ≤
      (m.credit.get p).toNat + (if p ∈ q.later then n else 0) + (r - n)
    omega

/-! ## Any number of passes -/

namespace Passes

variable {e : Progress σ S} {seen : List (Progress σ S)}

theorem inRange (h : Passes c seen d) (hc : c.InRange) : d.InRange ∧ ∀ e ∈ seen, e.InRange :=
  h.induction (fun _ _ hrange hnext => hrange.next hnext) hc

/-- The rounds that begin on the way are those that were to come and are not any more. -/
theorem countP_round (h : Passes c seen d) (hslice : 0 < c.machine.slice) :
    seen.countP (fun e => e.phase = .round) + d.roundsLeft = c.roundsLeft := by
  induction h with
  | refl => simp
  | @step c d _ _ hnext _ ih =>
    have hkept := slice_of_next hnext
    rw [List.countP_cons, roundsLeft_of_next hslice hnext, ← ih (hslice.trans_eq hkept.symm)]
    simp only [decide_eq_true_eq]
    omega

/-- No more steps are taken on the way than could be taken when it began. -/
theorem countP_takesStep (h : Passes c seen d) (hc : c.InRange) (p : Processor) :
    seen.countP (takesStep p) + d.stepsLeft p ≤ c.stepsLeft p := by
  induction h with
  | refl => simp
  | @step c d _ _ hnext _ ih =>
    have hstep := stepsLeft_of_next hc p hnext
    have hrest := ih (hc.next hnext)
    rw [List.countP_cons]
    omega

/-- A way that does not leave the turn of a processor has no more steps than there were cycles left. -/
theorem countP_turn {p : Processor} {n : Nat} (h : Passes c seen d)
    (hturn : ∀ e ∈ seen, e.phase = .stepping p n) :
    seen.countP (takesStep p) ≤ (c.machine.credit.get p).toNat := by
  induction h with
  | refl => simp
  | @step c d _ seen hnext rest ih =>
    have hphase := hturn c List.mem_cons_self
    have hlater : ∀ e ∈ seen, e.phase = .stepping p n := fun e he => hturn e (List.mem_cons_of_mem _ he)
    have hcount := ih hlater
    rw [List.countP_cons]
    cases pass_of_next hnext with
    | begun | held | given | turned | ended => cases hphase
    | @stepped m r q k hcredit =>
      cases hphase
      obtain ⟨cost, hone, -, hcharged⟩ := m.credit_takeStep p p
      rw [if_pos rfl] at hcharged
      have hcount : seen.countP (takesStep p) ≤ ((m.takeStep p).credit.get p).toNat := hcount
      show _ ≤ (m.credit.get p).toNat
      split <;> omega
    | @spent m r q k hcredit =>
      cases hphase
      -- the turn is over, so there is nothing after this pass
      cases rest with
      | refl =>
        have hno : takesStep p (⟨m, r, .stepping p n⟩ : Progress σ S) = false := by
          simpa [takesStep] using hcredit
        rw [List.countP_nil, hno]
        exact Nat.zero_le _
      | step _ _ => exact nomatch hlater _ List.mem_cons_self

end Passes

end Progress

/-! ## Frames -/

namespace Machine

variable {σ S : Type} [Interpreter σ] [SoundChip S]

/-- What a machine can have become that was put together with a length of turns: it ran frames, and
anything was done to its board and its interpreters in between. -/
inductive Reachable (slice : UInt32) : Machine σ S → Prop
  | assemble (board : Board S) (interpreters : PerProcessor σ) :
      Reachable slice (.assemble board interpreters slice)
  | syncLines {m : Machine σ S} (h : Reachable slice m) : Reachable slice m.syncLines
  | runFrame {m : Machine σ S} (h : Reachable slice m) : Reachable slice m.runFrame
  | change {m : Machine σ S} (h : Reachable slice m) (board : Board S) (interpreters : PerProcessor σ) :
      Reachable slice { m with board := board, interpreters := interpreters }

omit [SoundChip S] in
theorem Owes.syncLines {m : Machine σ S} {p : Processor} {C : Nat} (h : m.Owes p C) :
    m.syncLines.Owes p C :=
  h.applyResets

omit [SoundChip S] in
theorem inRange_start {m : Machine σ S} (h : ∀ p, m.Owes p (2 ^ 32)) : (Progress.start m).InRange where
  budget_le := Nat.zero_le _
  remaining_le := Nat.le_refl _
  owed p := (h p).syncLines.1
  left p := (h p).syncLines.2

/-- The loop of a frame is left with what `runFrame` gives. -/
theorem passes_frame (m : Machine σ S) (hslice : 0 < m.slice) :
    ∃ seen, (Progress.start m).Passes seen ⟨m.runFrame, 0, .round⟩ := by
  have hkept : m.syncLines.slice = m.slice := m.syncLines_ran.slice
  obtain ⟨seen, h⟩ := Progress.passes_rounds m.syncLines (hslice.trans_eq hkept.symm) frameCycles
  rw [hkept] at h
  exact ⟨seen, h⟩

/-- **Between frames nothing is left to spend**, and less than the longest possible step is owed. -/
theorem Reachable.owes {slice : UInt32} {m : Machine σ S} (h : m.Reachable slice) :
    m.slice = max slice.toNat 1 ∧ ∀ p, m.Owes p (2 ^ 32) := by
  induction h with
  | assemble board interpreters =>
    refine ⟨rfl, ?_⟩
    intro p
    show -((2 ^ 32 : Nat) : Int) < (PerProcessor.replicate 0).get p ∧ (PerProcessor.replicate 0).get p ≤ 0
    rw [PerProcessor.get_replicate]
    decide
  | @syncLines m _ ih => exact ⟨m.syncLines_ran.slice.trans ih.1, fun p => (ih.2 p).syncLines⟩
  | @runFrame m _ ih =>
    have hslice : 0 < m.slice := by
      rw [ih.1]
      exact Nat.lt_of_lt_of_le Nat.one_pos (Nat.le_max_right _ _)
    obtain ⟨seen, hpasses⟩ := m.passes_frame hslice
    obtain ⟨hlast, -⟩ := hpasses.inRange (inRange_start ih.2)
    exact ⟨m.runFrame_ran.slice.trans ih.1, fun p => ⟨hlast.owed p, hlast.left p⟩⟩
  | change _ _ _ ih => exact ih

end Machine

namespace Cabinet

variable {σ S : Type} [Interpreter σ] [SoundChip S]

/-- Whatever a host does with a cabinet, its machine is one that was put together for turns of the length
that is configured. -/
theorem Reachable.machine_reachable {s : Cabinet σ S} (h : s.Reachable) :
    s.machine.Reachable s.config.sliceCycles := by
  induction h with
  | assemble hs =>
    obtain ⟨r, -, rfl⟩ := assemble_eq_ok hs
    exact .assemble _ _
  | @stepFrame s _ ih =>
    have hran := (ih.change s.board.beginFrame s.machine.interpreters).runFrame
    exact (hran.change _ _).syncLines
  | reset _ ih => exact (ih.change _ _).syncLines
  | perform _ _ ih | restore _ _ ih => exact ih.change _ _
  | mount _ ht ih =>
    obtain ⟨_, _, rfl⟩ := mount_eq_ok ht
    exact ih.change _ _
  | unmount _ ht ih =>
    obtain ⟨_, _, rfl⟩ := unmount_eq_ok ht
    exact ih.change _ _
  | loadState _ ht ih =>
    obtain ⟨_, _, -, -, rfl⟩ := loadState_eq_ok ht
    exact (ih.change _ _).syncLines

end Cabinet

namespace Machine

variable {σ S : Type} [Interpreter σ] [SoundChip S]

/-- **A frame always ends.** Take a machine that was put together for turns of any length, zero included,
and has become anything since. The loop of a frame is left after finitely many passes, with the machine
that `runFrame` gives, and

- a round begins exactly as often as turns are needed to cover the cycles of the frame;
- in the whole frame a processor takes no more steps than the frame has cycles, and in each of its turns
  no more than the turn has;
- before every pass and at the end, each processor has less than `2 ^ 32` left or owed; and unless it is
  within its turn it has nothing left. -/
theorem frame_ends {slice : UInt32} {m : Machine σ S} (h : m.Reachable slice) :
    ∃ seen : List (Progress σ S), (Progress.start m).Passes seen ⟨m.runFrame, 0, .round⟩ ∧
      (⟨m.runFrame, 0, .round⟩ : Progress σ S).next = none ∧
      seen.countP (fun c => c.phase = .round) = frameCycles ⌈/⌉ max slice.toNat 1 ∧
      (∀ p, seen.countP (Progress.takesStep p) ≤ frameCycles) ∧
      (∀ before turn after p n, seen = before ++ turn ++ after →
        (∀ c ∈ turn, c.phase = .stepping p n) → turn.countP (Progress.takesStep p) ≤ n) ∧
      ∀ c ∈ seen ++ [⟨m.runFrame, 0, .round⟩], ∀ p,
        -(2 ^ 32 : Int) < c.machine.credit.get p ∧ c.machine.credit.get p < 2 ^ 32 ∧
          ((∀ n, c.phase ≠ .stepping p n) → c.machine.credit.get p ≤ 0) := by
  obtain ⟨hkept, howes⟩ := h.owes
  have hslice : 0 < m.slice := by omega
  obtain ⟨seen, hpasses⟩ := m.passes_frame hslice
  have hstart := inRange_start howes
  obtain ⟨hlast, hseen⟩ := hpasses.inRange hstart
  refine ⟨seen, hpasses, rfl, ?_, ?_, ?_, ?_⟩
  · have hsame : m.syncLines.slice = max slice.toNat 1 := m.syncLines_ran.slice.trans hkept
    have hrounds := hpasses.countP_round (by show 0 < m.syncLines.slice; omega)
    have hover : (⟨m.runFrame, 0, .round⟩ : Progress σ S).roundsLeft = 0 := zero_ceilDiv _
    rw [hover, Nat.add_zero] at hrounds
    rw [hrounds, ← hsame]
    rfl
  · intro p
    have hsteps := hpasses.countP_takesStep hstart p
    have hnothing : m.syncLines.credit.get p ≤ 0 := hstart.left p
    have hbound : (Progress.start m).stepsLeft p = (m.syncLines.credit.get p).toNat + 0 + frameCycles := rfl
    omega
  · intro before turn after p n hsplit hturn
    subst hsplit
    -- the turn is a way of its own, which begins with no more left than the turn gives
    obtain ⟨d, hbefore, -⟩ := hpasses.split
    obtain ⟨c, -, hpart⟩ := hbefore.split
    have hcount := hpart.countP_turn hturn
    cases hpart with
    | refl => exact Nat.zero_le _
    | step _ _ =>
      have hleft := (hseen c (by simp)).left p
      rw [hturn c List.mem_cons_self] at hleft
      simp only [Phase.allowance, if_pos] at hleft
      omega
  · intro c hc p
    have hrange : c.InRange := by
      rcases List.mem_append.mp hc with hc | hc
      · exact hseen c hc
      · rwa [List.mem_singleton.mp hc]
    obtain ⟨hbudget, hremaining, howed, hleft⟩ := hrange
    have hallowed := c.phase.allowance_le p
    have hframe : frameCycles = 25344 := rfl
    have hleft := hleft p
    refine ⟨howed p, by omega, ?_⟩
    intro hphase
    rwa [Phase.allowance_of_ne hphase] at hleft

/-- The second frame of a machine whose turns were to be of length zero. They are of one cycle each, so
that there are as many rounds as cycles. The steps of main report that they took no cycle, those of sub as
many as can be reported. -/
theorem frame_ends_zero_slice :
    let interpreters : PerProcessor FixedCost := ⟨.ofCost 0, .ofCost 0xFFFFFFFF, .ofCost 7⟩
    let layout : IoLayout := ⟨⟨⟨.playerCoin, .part56⟩, ⟨.dipSwitch, .part58⟩⟩, false⟩
    let m := assemble (Board.stock layout default 8 SoundRegisters.silent) interpreters 0
    m.Reachable 0 ∧
      ∃ seen, (Progress.start m.runFrame).Passes seen ⟨m.runFrame.runFrame, 0, .round⟩ ∧
        seen.countP (fun c => c.phase = .round) = 25344 ∧
        seen.countP (Progress.takesStep .main) ≤ 25344 := by
  intro interpreters layout m
  have hreachable : m.Reachable 0 := .assemble _ _
  obtain ⟨seen, hpasses, -, hrounds, hsteps, -⟩ := frame_ends hreachable.runFrame
  have hcycles : frameCycles ⌈/⌉ max (0 : UInt32).toNat 1 = 25344 := by decide
  exact ⟨hreachable, seen, hpasses, hrounds.trans hcycles, hsteps .main⟩

end Machine

end Arcade
