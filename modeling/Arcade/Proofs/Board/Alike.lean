import Arcade.Proofs.Board.Acceptance
import Arcade.Proofs.Board.Restore
import Arcade.Proofs.Board.SoundCalls
import Mathlib.Data.List.Forall2

/-!
# `Arcade.Proofs.Board.Alike` — runs that nobody can tell apart

Two boards are alike when they mirror each other, the same events wait in their queues, and their sound
generators are in the same state. What the boards have reported may differ, and where the processors were
when they last took a step. Whatever is done to boards that are alike, they answer alike and stay alike.

This is what a statement about two runs is made of. Where the runs differ at most in operations that do the
same to every board, one operation at a time is enough (`responses_related`).

## Contents
- `Board.Alike` with `Alike.perform`, `Alike.after`, `Alike.restore`, `Alike.treat`.
- `Board.response`, `Board.responses`: what treatments give back.
- `Operation.Equivalent`: operations that do the same to every board.
- `Treatment.Related`, `responses_related`, `related_indistinguishable`: from single operations to runs.
-/

namespace Arcade

namespace Board

variable {S : Type}

/-- Two boards that nobody can tell apart, not even by their sound generators or by their queues. -/
structure Alike (b c : Board S) : Prop extends b.Mirrors #[] c where
  sound : b.sound = c.sound

variable {b c d : Board S}

namespace Alike

theorem refl (b : Board S) : b.Alike b where
  memory := rfl
  roms := rfl
  controls := rfl
  io := { slots := fun _ => ⟨rfl, rfl, rfl⟩, inputs := rfl, outputs := rfl, events := by simp }
  mainWatchdog := rfl
  soundWatchdog := rfl
  starfield := rfl
  pendingReset := rfl
  diagnostics := rfl
  sound := rfl

theorem trans (h : b.Alike c) (h' : c.Alike d) : b.Alike d where
  memory := h.memory.trans h'.memory
  roms := h.roms.trans h'.roms
  controls := h.controls.trans h'.controls
  io :=
    { slots := fun i =>
        ⟨(h.io.slots i).reads.trans (h'.io.slots i).reads,
          (h.io.slots i).writes.trans (h'.io.slots i).writes,
          (h.io.slots i).state.trans (h'.io.slots i).state⟩
      inputs := h.io.inputs.trans h'.io.inputs
      outputs := h.io.outputs.trans h'.io.outputs
      events := by rw [h.io.events, h'.io.events]; simp }
  mainWatchdog := h.mainWatchdog.trans h'.mainWatchdog
  soundWatchdog := h.soundWatchdog.trans h'.soundWatchdog
  starfield := h.starfield.trans h'.starfield
  pendingReset := h.pendingReset.trans h'.pendingReset
  diagnostics := h.diagnostics.trans h'.diagnostics
  sound := h.sound.trans h'.sound

theorem symm (h : b.Alike c) : c.Alike b where
  memory := h.memory.symm
  roms := h.roms.symm
  controls := h.controls.symm
  io :=
    { slots := fun i => ⟨(h.io.slots i).reads.symm, (h.io.slots i).writes.symm, (h.io.slots i).state.symm⟩
      inputs := h.io.inputs.symm
      outputs := h.io.outputs.symm
      events := by rw [h.io.events]; simp }
  mainWatchdog := h.mainWatchdog.symm
  soundWatchdog := h.soundWatchdog.symm
  starfield := h.starfield.symm
  pendingReset := h.pendingReset.symm
  diagnostics := h.diagnostics.symm
  sound := h.sound.symm

/-- What a board has reported does not matter. -/
theorem of_journal {j : Journal} (h : c = { b with journal := j }) : b.Alike c := by
  subst h
  exact { refl b with }

theorem events (h : b.Alike c) : b.io.events = c.io.events := by
  rw [h.io.events]
  simp

section Chip

variable [SoundChip S]

/-- **One operation on boards that are alike** gives the same answer, and boards that are alike. -/
theorem perform (h : b.Alike c) (op : Operation) :
    (b.perform op).1 = (c.perform op).1 ∧ (b.perform op).2.Alike (c.perform op).2 := by
  have hqueues : op ≠ .takeEvents ∨ (#[] : Array OutputEvent) = #[] := .inr rfl
  obtain ⟨hanswer, hmirrors⟩ := h.toMirrors.perform hqueues
  -- what the sound generator is told depends on the operation, its answer and the reset line
  have hsound : (b.perform op).2.sound = (c.perform op).2.sound := by
    rw [(b.hears_perform op).sound, (c.hears_perform op).sound, hanswer, h.controls, h.sound]
  exact ⟨hanswer, { hmirrors with sound := hsound }⟩

/-- **A whole history on boards that are alike.** -/
theorem after (h : b.Alike c) (ops : List Operation) :
    b.history ops = c.history ops ∧ (b.after ops).Alike (c.after ops) := by
  induction ops generalizing b c with
  | nil => exact ⟨rfl, h⟩
  | cons op ops ih =>
    obtain ⟨hanswer, hnext⟩ := h.perform op
    obtain ⟨hhistory, hafter⟩ := ih hnext
    rw [history_cons, history_cons, hanswer, hhistory]
    exact ⟨rfl, hafter⟩

/-- **A saved state on boards that are alike** is refused for the same reason, or leaves boards that are
alike. -/
theorem restore (h : b.Alike c) (saved : BoardState) :
    (∃ e, b.restore saved = .error e ∧ c.restore saved = .error e) ∨
      ∃ b' c', b.restore saved = .ok b' ∧ c.restore saved = .ok c' ∧ b'.Alike c' := by
  unfold Board.restore
  cases SharedRam.ofImages saved.memory with
  | error e => exact .inl ⟨e, rfl, rfl⟩
  | ok m =>
    refine .inr ⟨_, _, rfl, rfl, ?_⟩
    have hio : (b.io.restore saved.chips saved.inputs saved.outputs).Mirrors #[]
        (c.io.restore saved.chips saved.inputs saved.outputs) := by
      refine { slots := ?_, inputs := rfl, outputs := rfl, events := rfl }
      intro i
      match i with
      | 0 => exact { h.io.slots 0 with state := rfl }
      | 1 => exact { h.io.slots 1 with state := rfl }
    exact
      { h with
        memory := rfl, controls := rfl, io := hio, mainWatchdog := rfl, soundWatchdog := rfl
        starfield := rfl, pendingReset := rfl, diagnostics := rfl
        sound := by rw [h.sound] }

end Chip

end Alike

/-! ## What treatments give back -/

section Chip

variable [SoundChip S]

/-- What a treatment gives back: an operation its answer, and a saved state whether it was taken. -/
def response (b : Board S) : Treatment → Except ImageProblem Answer
  | .operation op => .ok (b.perform op).1
  | .restore saved => (b.restore saved).map fun _ => .done

/-- What some treatments give back. -/
def responses (b : Board S) : List Treatment → List (Except ImageProblem Answer)
  | [] => []
  | t :: run => b.response t :: (b.treat t).responses run

theorem Alike.treat (h : b.Alike c) (t : Treatment) :
    b.response t = c.response t ∧ (b.treat t).Alike (c.treat t) := by
  cases t with
  | operation op =>
    obtain ⟨hanswer, hnext⟩ := h.perform op
    exact ⟨congrArg Except.ok hanswer, hnext⟩
  | restore saved =>
    show (b.restore saved).map (fun _ => Answer.done) = (c.restore saved).map (fun _ => Answer.done) ∧
      (b.treat (.restore saved)).Alike (c.treat (.restore saved))
    simp only [Board.treat]
    rcases h.restore saved with ⟨e, hb, hc⟩ | ⟨b', c', hb, hc, hnext⟩
    · rw [hb, hc]
      exact ⟨rfl, h⟩
    · rw [hb, hc]
      exact ⟨rfl, hnext⟩

end Chip

end Board

/-! ## From single operations to whole runs -/

/-- Two operations that do the same: on any board they give the same answer, and boards that are alike. -/
def Operation.Equivalent (op op' : Operation) : Prop :=
  ∀ {S : Type} [SoundChip S] (b : Board S),
    (b.perform op).1 = (b.perform op').1 ∧ (b.perform op).2.Alike (b.perform op').2

theorem Operation.Equivalent.refl (op : Operation) : op.Equivalent op :=
  fun _ => ⟨rfl, .refl _⟩

/-- The same treatment, except that operations may differ as a relation allows. -/
inductive Treatment.Related (R : Operation → Operation → Prop) : Treatment → Treatment → Prop
  | operation {op op' : Operation} (h : R op op') : Related R (.operation op) (.operation op')
  | restore (saved : BoardState) : Related R (.restore saved) (.restore saved)

namespace Board

variable {S : Type} [SoundChip S] {b c : Board S}

/-- **Runs that differ only in operations that do the same** give the same back, and leave boards that are
alike. -/
theorem responses_related {R : Operation → Operation → Prop} (hR : ∀ op op', R op op' → op.Equivalent op')
    {run run' : List Treatment} (hrun : List.Forall₂ (Treatment.Related R) run run') (h : b.Alike c) :
    b.responses run = c.responses run' ∧ (b.treated run).Alike (c.treated run') := by
  induction hrun generalizing b c with
  | nil => exact ⟨rfl, h⟩
  | @cons t t' run run' ht _ ih =>
    have hstep : b.response t = c.response t' ∧ (b.treat t).Alike (c.treat t') := by
      cases ht with
      | restore saved => exact h.treat (.restore saved)
      | @operation op op' hop =>
        -- first the other board, then the other operation
        obtain ⟨hanswer, hnext⟩ := h.perform op
        obtain ⟨hanswer', hnext'⟩ := hR op op' hop c
        exact ⟨congrArg Except.ok (hanswer.trans hanswer'), hnext.trans hnext'⟩
    obtain ⟨hresponses, hafter⟩ := ih hstep.2
    refine ⟨?_, hafter⟩
    show b.response t :: (b.treat t).responses run = c.response t' :: (c.treat t').responses run'
    rw [hstep.1, hresponses]

/-- **Such runs cannot be told apart**, by what they give back or by what they leave behind: saved states,
sound generators, queued events. -/
theorem related_indistinguishable {R : Operation → Operation → Prop}
    (hR : ∀ op op', R op op' → op.Equivalent op') {run run' : List Treatment}
    (hrun : List.Forall₂ (Treatment.Related R) run run') (b : Board S) :
    b.responses run' = b.responses run ∧
      (b.treated run').state = (b.treated run).state ∧
      (b.treated run').sound = (b.treated run).sound ∧
      (b.treated run').io.events = (b.treated run).io.events := by
  obtain ⟨hresponses, halike⟩ := responses_related hR hrun (.refl b)
  exact ⟨hresponses.symm, halike.state.symm, halike.sound.symm, halike.events.symm⟩

end Board

end Arcade
