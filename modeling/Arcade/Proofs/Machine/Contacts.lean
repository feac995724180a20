import Arcade.Proofs.Cabinet.SaveState
import Arcade.Proofs.Machine.Accounts
import Arcade.Proofs.Machine.Restart

/-!
# `Arcade.Proofs.Machine.Contacts` — the interpreters are in step with their lines

An interpreter knows of the board only what it is told: that it is reset, and the level of its interrupt
line. Lines change in the middle of turns, at the end of a frame, and whenever a host has changed the
board. This module writes down everything that is done with the interpreters, in order and each time with
the board as it is then. What was written down is checked against the machine: taken through their shares
of it, the interpreters become what the machine has made of them. As this goes for interpreters of every
kind, among them those that keep a record themselves, nothing can be missing or out of order.

Then it is read off what an interpreter was told last: always the level that its line has, and before
that of its reset, if one was due. Within a turn it is told before each step.

## Contents
- `Contact`, `Visit`: what is done with an interpreter, and when; `Visit.replay`, `Visit.contacts`.
- `Machine.visits`: everything that is done with the interpreters in a list of stages.
- `Machine.Visited`, `after_visited`: an interpreter goes through its visits and through nothing else.
- `Prompted`, `visits_prompted`: the line is shown right before each step.
- `Cabinet.InStep`, `Cabinet.lines_in_step`.
-/

namespace Arcade

/-- What is done with an interpreter. -/
inductive Contact
  | reset
  /-- It is shown the level of its interrupt line. -/
  | line (on : Bool)
  | step
  deriving DecidableEq, Repr

/-- Something that is done with the interpreter of a processor, and the board at that time. -/
structure Visit (S : Type) where
  processor : Processor
  contact : Contact
  board : Board S

namespace Visit

variable {S : Type}

/-- The visits of one processor, without the boards. -/
def contacts (p : Processor) (visits : List (Visit S)) : List Contact :=
  (visits.filter fun v => v.processor = p).map contact

theorem contacts_append (p : Processor) (visits more : List (Visit S)) :
    contacts p (visits ++ more) = contacts p visits ++ contacts p more := by
  unfold contacts
  rw [List.filter_append, List.map_append]

section Replay

variable {σ : Type} [Interpreter σ] [SoundChip S]

/-- The interpreter after a visit. -/
def apply (v : Visit S) (c : σ) : σ :=
  match v.contact with
  | .reset => Interpreter.reset c
  | .line on => Interpreter.setIrqLine c on
  | .step => ((Interpreter.step c).run (Board.bus v.processor) v.board).1.2

/-- The interpreter of a processor after its share of some visits. -/
def replay (p : Processor) (visits : List (Visit S)) (c : σ) : σ :=
  (visits.filter fun v => v.processor = p).foldl (fun c v => v.apply c) c

theorem replay_append (p : Processor) (visits more : List (Visit S)) (c : σ) :
    replay p (visits ++ more) c = replay p more (replay p visits c) := by
  unfold replay
  rw [List.filter_append, List.foldl_append]

theorem replay_cons (p : Processor) (v : Visit S) (visits : List (Visit S)) (c : σ) :
    replay p (v :: visits) c = replay p visits (if v.processor = p then v.apply c else c) := by
  unfold replay
  by_cases hp : v.processor = p
  · rw [List.filter_cons_of_pos (by simpa using hp), if_pos hp]
    rfl
  · rw [List.filter_cons_of_neg (by simpa using hp), if_neg hp]

end Replay

end Visit

/-! ## Everything that is done -/

namespace Machine

variable {σ S : Type} [Interpreter σ] [SoundChip S]

omit [SoundChip S] in
/-- A processor's interpreter is reset if that is due. -/
def resetVisit (m : Machine σ S) (p : Processor) : List (Visit S) :=
  if m.board.pendingReset.get p then [⟨p, .reset, (m.applyReset p).board⟩] else []

omit [Interpreter σ] [SoundChip S] in
/-- An interpreter is shown its line. -/
def lineVisit (m : Machine σ S) (p : Processor) : Visit S :=
  ⟨p, .line (m.board.irqLine p), m.board⟩

/-- An interpreter is shown its line, and takes a step. -/
def stepVisits (m : Machine σ S) (p : Processor) : List (Visit S) :=
  let shown := Interpreter.setIrqLine (m.interpreters.get p) (m.board.irqLine p)
  [m.lineVisit p, ⟨p, .step, m.board.notePc p (Interpreter.pc shown)⟩]

/-- The steps of a processor until its credit is spent. -/
def spendVisits (m : Machine σ S) (p : Processor) : List (Visit S) :=
  if 0 < m.credit.get p then m.stepVisits p ++ spendVisits (m.takeStep p) p else []
termination_by (m.credit.get p).toNat
decreasing_by
  have := credit_takeStep_lt m p
  omega

/-- What is done with the interpreters in a stage. -/
def stageVisits (m : Machine σ S) : Stage S → List (Visit S)
  | .turn p n =>
    if m.board.isHeld p then []
    else { m with credit := m.credit.modify p fun k => k + n }.spendVisits p
  | .resets =>
    m.resetVisit .main ++ (m.applyReset .main).resetVisit .sub ++
      ((m.applyReset .main).applyReset .sub).resetVisit .sound
  | .lines => [m.lineVisit .main, m.lineVisit .sub, m.lineVisit .sound]
  | .board _ => []

/-- What is done with the interpreters in a list of stages. -/
def visits (m : Machine σ S) : List (Stage S) → List (Visit S)
  | [] => []
  | stage :: stages => m.stageVisits stage ++ (m.perform stage).visits stages

theorem visits_append (m : Machine σ S) (stages more : List (Stage S)) :
    m.visits (stages ++ more) = m.visits stages ++ (m.after stages).visits more := by
  induction stages generalizing m with
  | nil => rfl
  | cons stage stages ih =>
    show m.stageVisits stage ++ (m.perform stage).visits (stages ++ more) = _
    rw [ih, ← List.append_assoc]
    rfl

/-! ## The interpreters go through it -/

/-- From one machine to another the interpreters go through their shares of some visits. -/
def Visited (m : Machine σ S) (visits : List (Visit S)) (n : Machine σ S) : Prop :=
  ∀ p, n.interpreters.get p = Visit.replay p visits (m.interpreters.get p)

section Visited

variable {m n k : Machine σ S} {visits more : List (Visit S)}

theorem Visited.of_eq (h : n.interpreters = m.interpreters) : m.Visited [] n :=
  fun p => congrArg (PerProcessor.get · p) h

theorem Visited.trans (h : m.Visited visits n) (h' : n.Visited more k) : m.Visited (visits ++ more) k := by
  intro p
  rw [h' p, h p, Visit.replay_append]

/-- A visit leaves the other interpreters as they are. -/
theorem Visited.of_modify {p : Processor} {v : Visit S} (hp : v.processor = p)
    (h : n.interpreters = m.interpreters.modify p v.apply) : m.Visited [v] n := by
  intro q
  rw [h, PerProcessor.get_modify, Visit.replay_cons, hp]
  rfl

theorem applyReset_visited (m : Machine σ S) (p : Processor) :
    m.Visited (m.resetVisit p) (m.applyReset p) := by
  have hflag : (m.board.takeReset p).1 = m.board.pendingReset.get p := rfl
  by_cases hdue : m.board.pendingReset.get p = true
  · -- the credit is forgotten with the reset, but that is no concern of the interpreter
    have hreset : (m.applyReset p).interpreters = m.interpreters.modify p Interpreter.reset := by
      unfold applyReset
      dsimp only
      rw [hflag, if_pos hdue]
    unfold resetVisit
    rw [if_pos hdue]
    exact .of_modify rfl hreset
  · have hspared : (m.applyReset p).interpreters = m.interpreters := by
      unfold applyReset
      dsimp only
      rw [hflag, if_neg hdue]
    unfold resetVisit
    rw [if_neg hdue]
    exact .of_eq hspared

theorem showLine_visited (m : Machine σ S) (p : Processor) : m.Visited [m.lineVisit p] (m.showLine p) :=
  .of_modify rfl rfl

theorem takeStep_visited (m : Machine σ S) (p : Processor) : m.Visited (m.stepVisits p) (m.takeStep p) := by
  intro q
  unfold stepVisits lineVisit
  rw [Visit.replay_cons, Visit.replay_cons, takeStep_eq]
  show (m.interpreters.set p _).get q = Visit.replay q [] _
  rw [PerProcessor.get_set]
  by_cases hpq : p = q
  · subst hpq
    simp only [if_true]
    rfl
  · simp only [if_neg hpq]
    rfl

theorem spend_visited (m : Machine σ S) (p : Processor) : m.Visited (m.spendVisits p) (m.spend p) := by
  fun_induction spend m p with
  | case1 m hcredit ih =>
    rw [spendVisits, if_pos hcredit]
    exact (m.takeStep_visited p).trans ih
  | case2 m hcredit =>
    rw [spendVisits, if_neg hcredit]
    exact .of_eq rfl

theorem perform_visited (m : Machine σ S) (stage : Stage S) :
    m.Visited (m.stageVisits stage) (m.perform stage) := by
  cases stage with
  | turn p n =>
    show m.Visited (if m.board.isHeld p then [] else _) (m.takeTurn p n)
    unfold takeTurn
    by_cases hheld : m.board.isHeld p = true
    · rw [if_pos hheld, if_pos hheld]
      exact .of_eq rfl
    · rw [if_neg hheld, if_neg hheld]
      exact spend_visited { m with credit := m.credit.modify p fun k => k + n } p
  | resets =>
    exact ((m.applyReset_visited .main).trans (applyReset_visited _ .sub)).trans (applyReset_visited _ .sound)
  | lines =>
    exact ((m.showLine_visited .main).trans (showLine_visited _ .sub)).trans (showLine_visited _ .sound)
  | board _ => exact .of_eq rfl

/-- **The interpreters go through their visits**, and through nothing else. -/
theorem after_visited (m : Machine σ S) (stages : List (Stage S)) :
    m.Visited (m.visits stages) (m.after stages) := by
  induction stages generalizing m with
  | nil => exact .of_eq rfl
  | cons stage stages ih => exact (m.perform_visited stage).trans (ih (m.perform stage))

end Visited

end Machine

/-! ## Before a step -/

/-- Right before each step the interpreter is shown its line, as it is when the step is taken. -/
def Prompted {S : Type} (visits : List (Visit S)) : Prop :=
  ∀ before p board after, visits = before ++ ⟨p, .step, board⟩ :: after →
    ∃ earlier shown, before = earlier ++ [⟨p, .line (board.irqLine p), shown⟩]

namespace Prompted

variable {S : Type} {visits more : List (Visit S)}

theorem of_no_step (h : ∀ v ∈ visits, v.contact ≠ .step) : Prompted visits := by
  rintro before p board after rfl
  exact absurd rfl (h ⟨p, .step, board⟩ (by simp))

theorem append (h : Prompted visits) (h' : Prompted more) : Prompted (visits ++ more) := by
  intro before p board after heq
  rcases List.append_eq_append_iff.mp heq with ⟨within, rfl, hwithin⟩ | ⟨rest, hrest, hmore⟩
  · obtain ⟨earlier, shown, rfl⟩ := h' within p board after hwithin
    exact ⟨visits ++ earlier, shown, (List.append_assoc _ _ _).symm⟩
  · cases rest with
    | nil =>
      -- the step is the first of the later visits, where nothing comes before it
      obtain ⟨earlier, shown, hnothing⟩ := h' [] p board after hmore.symm
      simp at hnothing
    | cons v rest =>
      obtain ⟨rfl, -⟩ := List.cons.inj hmore
      exact h before p board rest hrest

theorem step (p : Processor) (shown board : Board S) :
    Prompted [⟨p, .line (board.irqLine p), shown⟩, ⟨p, .step, board⟩] := by
  intro before q found after heq
  cases before with
  | nil =>
    have hcontact := congrArg Visit.contact (List.cons.inj heq).1
    cases hcontact
  | cons v rest =>
    obtain ⟨rfl, hrest⟩ := List.cons.inj heq
    cases rest with
    | nil =>
      cases (List.cons.inj hrest).1
      exact ⟨[], shown, rfl⟩
    | cons w rest => simp at hrest

end Prompted

namespace Machine

variable {σ S : Type} [Interpreter σ] [SoundChip S]

omit [SoundChip S] in
theorem stepVisits_prompted (m : Machine σ S) (p : Processor) : Prompted (m.stepVisits p) :=
  -- the note of the program counter leaves the lines alone
  .step p m.board (m.board.notePc p _)

theorem spendVisits_prompted (m : Machine σ S) (p : Processor) : Prompted (m.spendVisits p) := by
  fun_induction spendVisits m p with
  | case1 m _ ih => exact (m.stepVisits_prompted p).append ih
  | case2 => exact .of_no_step (List.forall_mem_nil _)

omit [SoundChip S] in
theorem resetVisit_prompted (m : Machine σ S) (p : Processor) : Prompted (m.resetVisit p) := by
  unfold resetVisit
  split
  · have hreset : Contact.reset ≠ .step := nofun
    exact .of_no_step (List.forall_mem_singleton.mpr hreset)
  · exact .of_no_step (List.forall_mem_nil _)

omit [Interpreter σ] [SoundChip S] in
theorem lineVisit_prompted (m : Machine σ S) (p : Processor) : Prompted [m.lineVisit p] := by
  have hline : Contact.line (m.board.irqLine p) ≠ .step := nofun
  exact .of_no_step (List.forall_mem_singleton.mpr hline)

theorem stageVisits_prompted (m : Machine σ S) (stage : Stage S) : Prompted (m.stageVisits stage) := by
  cases stage with
  | turn p n =>
    show Prompted (if m.board.isHeld p then [] else _)
    split
    · exact .of_no_step (List.forall_mem_nil _)
    · exact spendVisits_prompted _ p
  | resets =>
    exact ((m.resetVisit_prompted .main).append (resetVisit_prompted _ .sub)).append
      (resetVisit_prompted _ .sound)
  | lines =>
    exact ((m.lineVisit_prompted .main).append (m.lineVisit_prompted .sub)).append
      (m.lineVisit_prompted .sound)
  | board _ => exact .of_no_step (List.forall_mem_nil _)

/-- **An interpreter is shown its line right before each of its steps**, whatever a machine goes through. -/
theorem visits_prompted (m : Machine σ S) (stages : List (Stage S)) : Prompted (m.visits stages) := by
  induction stages generalizing m with
  | nil => exact .of_no_step (List.forall_mem_nil _)
  | cons stage stages ih => exact (m.stageVisits_prompted stage).append (ih (m.perform stage))

/-! ## At the end -/

omit [SoundChip S] in
theorem contacts_resetVisit (m : Machine σ S) (p q : Processor) :
    Visit.contacts p (m.resetVisit q) =
      if q = p then if m.board.pendingReset.get p then [.reset] else [] else [] := by
  unfold resetVisit
  by_cases hqp : q = p
  · subst hqp
    rw [if_pos rfl]
    split
    · simp [Visit.contacts]
    · rfl
  · rw [if_neg hqp]
    split
    · simp [Visit.contacts, hqp]
    · rfl

/-- **When the lines are synchronised**, an interpreter is reset if that is due, and then shown its line. -/
theorem contacts_sync (m : Machine σ S) (p : Processor) :
    Visit.contacts p (m.visits [.resets, .lines]) =
      (if m.board.pendingReset.get p then [.reset] else []) ++ [.line (m.syncLines.board.irqLine p)] := by
  have hresets : Visit.contacts p (m.stageVisits .resets) =
      if m.board.pendingReset.get p then [.reset] else [] := by
    unfold stageVisits
    rw [Visit.contacts_append, Visit.contacts_append, contacts_resetVisit, contacts_resetVisit,
      contacts_resetVisit]
    -- the flags are taken one by one, and taking one leaves the other two as they are
    cases p <;> simp [PerProcessor.get_set]
  have hlines : Visit.contacts p (m.applyResets.stageVisits .lines) =
      [.line (m.applyResets.board.irqLine p)] := by
    cases p <;> rfl
  show Visit.contacts p (m.stageVisits .resets ++ (m.applyResets.stageVisits .lines ++ [])) = _
  rw [Visit.contacts_append, List.append_nil, hresets, hlines]
  rfl

end Machine

/-! ## Cabinets -/

namespace Cabinet

variable {σ S : Type} [Interpreter σ] [SoundChip S]

/-- A cabinet has become another by going through some stages and then synchronising its lines. -/
structure InStep (s : Cabinet σ S) (stages : List (Stage S)) (s' : Cabinet σ S) : Prop where
  after : s'.machine = s.machine.after (stages ++ [.resets, .lines])
  /-- The interpreters went through their visits and through nothing else. -/
  visited : s.machine.Visited (s.machine.visits (stages ++ [.resets, .lines])) s'.machine
  /-- No reset is due any longer. -/
  settled : s'.board.pendingReset = .replicate false
  /-- In the end an interpreter was reset, if that was due, and then shown its line as it is now. -/
  synced : ∀ p, Visit.contacts p (s.machine.visits (stages ++ [.resets, .lines])) =
    Visit.contacts p (s.machine.visits stages) ++
      (if (s.machine.after stages).board.pendingReset.get p then [.reset] else []) ++
      [.line (s'.board.irqLine p)]
  prompted : Prompted (s.machine.visits (stages ++ [.resets, .lines]))

theorem InStep.of_after {s s' : Cabinet σ S} {stages : List (Stage S)}
    (h : s'.machine = s.machine.after (stages ++ [.resets, .lines])) : s.InStep stages s' := by
  have hsync : s'.machine = (s.machine.after stages).syncLines := by
    rw [h, Machine.after_append]
    rfl
  refine { after := h, visited := ?_, settled := ?_, synced := ?_, prompted := ?_ }
  · rw [h]
    exact s.machine.after_visited _
  · obtain ⟨j, hj⟩ := (s.machine.after stages).syncLines_eq
    unfold board
    rw [hsync, hj]
  · intro p
    unfold board
    rw [hsync, Machine.visits_append, Visit.contacts_append, Machine.contacts_sync, ← List.append_assoc]
  · exact s.machine.visits_prompted _

/-- **The interpreters are in step with their lines** after each thing that the system does: a reset, a
frame, and the loading of a save state. No reset is due any longer. The interpreter of every processor
whose reset was due when the lines were last synchronised has been reset then. After that, and last of
all, it was shown its line, at the level that the line has now. And whenever it took a step, it had been
shown its line right before, at the level of that moment. -/
theorem lines_in_step (s : Cabinet σ S) :
    s.InStep [.board Board.machineReset] s.reset ∧
      s.InStep (.board Board.beginFrame :: Stage.ofFrame s.machine.slice ++ [.board fun b => b.frameSync.2])
        s.stepFrame ∧
      ∀ v s', s.loadState v = .ok s' → ∃ saved b, SaveState.check s.revision.name v = .ok saved ∧
        s.board.restore saved.board = .ok b ∧ s.InStep [.board fun _ => b] s' := by
  refine ⟨.of_after (s.machine_perform_eq_after .reset), .of_after ?_, ?_⟩
  · rw [List.append_assoc]
    exact s.machine_perform_eq_after .stepFrame
  · intro v s' hload
    obtain ⟨saved, b, hsaved, hb, rfl⟩ := loadState_eq_ok hload
    exact ⟨saved, b, hsaved, hb, .of_after rfl⟩

/-- A state is loaded that was saved while main's interrupt line was raised, and after sub and sound had
been held again. Main's interpreter is only shown its line, the other two are reset before that. -/
theorem lines_in_step_loaded :
    let s := stock Config.standard (Revision.all.head nofun) idleInterpreters SoundRegisters.silent .silent
    let ops : List Operation := [.takeReset .main, .takeReset .sub, .takeReset .sound,
      .write .main 0x8000 0, .write .main 0x8800 0, .write .main 0x7000 0, .frameSync]
    ∃ s', s.loadState (s.mapBoard fun b => b.after ops).saveState = .ok s' ∧
      ∃ stages, s.InStep stages s' ∧
        PerProcessor.tabulate (fun p => Visit.contacts p (s.machine.visits (stages ++ [.resets, .lines]))) =
          ⟨[.line true], [.reset, .line false], [.reset, .line false]⟩ := by
  intro s ops
  let saver := s.mapBoard fun b => b.after ops
  have hload : s.loadState saver.saveState = .ok (s.reloaded saver) := s.loadState_saveState_eq saver rfl
  obtain ⟨-, -, hloaded⟩ := lines_in_step s
  obtain ⟨saved, b, hsaved, hb, hstep⟩ := hloaded _ _ hload
  have hfound : saved = ⟨saver.frame, saver.board.state⟩ :=
    Except.ok.inj (hsaved.symm.trans (SaveState.check_eq_ok.mpr saver.holds_saveState))
  rw [hfound, Board.restore_state_eq_adopt] at hb
  have hdue : b.pendingReset = ⟨false, true, true⟩ := by
    rw [← Except.ok.inj hb]
    decide +kernel
  have hlines (p : Processor) : (s.reloaded saver).board.irqLine p = saver.board.irqLine p :=
    (s.interpreters_reloaded saver p).1
  refine ⟨_, hload, _, hstep, PerProcessor.ext_get fun p => ?_⟩
  rw [PerProcessor.get_tabulate, hstep.synced p, hlines]
  show [] ++ (if b.pendingReset.get p then _ else _) ++ _ = _
  rw [hdue]
  cases p <;> decide +kernel

end Cabinet

end Arcade
