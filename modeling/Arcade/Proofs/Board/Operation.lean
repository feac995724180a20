import Arcade.Proofs.Board.Effect

/-!
# `Arcade.Proofs.Board.Operation` — histories of a board

Everything that processors, the scheduler and the host do to a board is one of a few operations, and
each gives an answer. A history is a list of operations, done one after the other, so a statement
about whatever may happen to a board is a statement about every list. Restoring a saved state is not
among them: it brings in another board, and is added where it matters (`Board.Reachable`).

## Contents
- `Operation`, `Answer`, and `Board.perform`, one operation.
- `perform_spares`: what operations other than writes, ends of frames and resets leave alone.
- `Board.after`, `Board.answers`, `Board.history`: operations one after the other.
- `Board.after_induction`: what every operation keeps is kept by every history.
-/

namespace Arcade

/-- Something that is done to a board. -/
inductive Operation
  | read (p : Processor) (address : UInt16)
  | write (p : Processor) (address : UInt16) (data : UInt8)
  | beginFrame
  | frameSync
  | machineReset
  | takeReset (p : Processor)
  | notePc (p : Processor) (pc : UInt16)
  | setInput (group : InputGroup) (value : UInt8)
  | press (button : Button) (pressed : Bool)
  | takeEvents
  | configureSlot (slot : Nat) (spec : ChipSpec) (wiring : Wiring)
  | loadRom (p : Processor) (image : List UInt8)
  | unloadRom (p : Processor)
  | snapshot (frame : UInt64)
  deriving DecidableEq

/-- What an operation gives back. -/
inductive Answer
  | done
  | byte (value : UInt8)
  | sync (report : FrameSync)
  | due (reset : Bool)
  | events (events : List OutputEvent)
  | slotRefused (problem : SlotProblem)
  | romRefused (problem : RomSizeProblem)
  | picture (snapshot : Snapshot)
  deriving DecidableEq

namespace Board

variable {S : Type} [SoundChip S]

/-- Does one thing to a board. What fails leaves the board as it is. -/
def perform (b : Board S) : Operation → Answer × Board S
  | .read p a => (.byte (b.read p a).1, (b.read p a).2)
  | .write p a data => (.done, b.write p a data)
  | .beginFrame => (.done, b.beginFrame)
  | .frameSync => (.sync b.frameSync.1, b.frameSync.2)
  | .machineReset => (.done, b.machineReset)
  | .takeReset p => (.due (b.takeReset p).1, (b.takeReset p).2)
  | .notePc p pc => (.done, b.notePc p pc)
  | .setInput g v => (.done, b.mapInputs fun i => i.set g v)
  | .press button pressed => (.done, b.mapInputs fun i => i.press button pressed)
  | .takeEvents => (.events b.takeEvents.1, b.takeEvents.2)
  | .configureSlot slot spec wiring =>
    match b.configureSlot slot spec wiring with
    | .ok b' => (.done, b')
    | .error problem => (.slotRefused problem, b)
  | .loadRom p image =>
    match b.loadRom p image with
    | .ok b' => (.done, b')
    | .error problem => (.romRefused problem, b)
  | .unloadRom p => (.done, b.unloadRom p)
  | .snapshot frame => (.picture (b.snapshot frame), b)

/-- Whether it succeeds or not, configuring a slot changes the chips and nothing else. -/
theorem perform_configureSlot (b : Board S) (slot : Nat) (spec : ChipSpec) (wiring : Wiring) :
    ∃ io j, (b.perform (.configureSlot slot spec wiring)).2 = { b with io := io, journal := j } ∧
      (io = b.io ∨
        ∃ io', b.io.configure slot spec wiring = .ok io' ∧
          io = (io'.setReset b.controls.chipsHeld).1) := by
  simp only [perform]
  cases hb : b.configureSlot slot spec wiring with
  | error problem => exact ⟨b.io, b.journal, rfl, .inl rfl⟩
  | ok b' =>
    obtain ⟨io, j, hio, rfl⟩ := configureSlot_eq_ok hb
    exact ⟨_, j, rfl, .inr ⟨io, hio, rfl⟩⟩

/-- Configuring a slot answers that it is done, or why it is not. -/
theorem configureSlot_answer (b : Board S) (slot : Nat) (spec : ChipSpec) (wiring : Wiring) :
    (b.perform (.configureSlot slot spec wiring)).1 = .done ∨
      ∃ problem, (b.perform (.configureSlot slot spec wiring)).1 = .slotRefused problem := by
  simp only [perform]
  cases b.configureSlot slot spec wiring with
  | error problem => exact .inr ⟨problem, rfl⟩
  | ok b' => exact .inl rfl

/-- Whether it succeeds or not, loading a program changes the programs and nothing else. -/
theorem perform_loadRom (b : Board S) (p : Processor) (image : List UInt8) :
    ∃ roms loaded,
      (b.perform (.loadRom p image)).2 = { b with roms := roms, loaded := loaded } := by
  simp only [perform]
  cases hb : b.loadRom p image with
  | error problem => exact ⟨b.roms, b.loaded, rfl⟩
  | ok b' =>
    obtain ⟨roms, rfl⟩ := loadRom_eq_ok hb
    exact ⟨roms, _, rfl⟩

/-- Loading a program answers that it is done, or why it is not. -/
theorem loadRom_answer (b : Board S) (p : Processor) (image : List UInt8) :
    (b.perform (.loadRom p image)).1 = .done ∨
      ∃ problem, (b.perform (.loadRom p image)).1 = .romRefused problem := by
  simp only [perform]
  cases b.loadRom p image with
  | error problem => exact .inr ⟨problem, rfl⟩
  | ok b' => exact .inl rfl

/-! ## Quiet operations -/

end Board

/-- Whether an operation is neither a write nor one that may reset the machine. -/
def Operation.isQuiet : Operation → Bool
  | .write _ _ _ | .frameSync | .machineReset => false
  | _ => true

namespace Board

variable {S : Type} [SoundChip S]

/-- The second board has the memories, the control registers, the sound generator and the outputs of the
first. -/
structure Spares (b c : Board S) : Prop where
  memory : c.memory = b.memory
  controls : c.controls = b.controls
  sound : c.sound = b.sound
  outputs : c.io.outputs = b.io.outputs

/-- **Only writes, ends of frames and resets do more** than reading, reporting, or what concerns inputs,
programs and chips. -/
theorem perform_spares (b : Board S) (op : Operation) (h : op.isQuiet = true) :
    b.Spares (b.perform op).2 := by
  cases op with
  | read p a =>
    obtain ⟨main, sound, counts, j, hj⟩ := b.read_changes p a
    show b.Spares (b.read p a).2
    rw [hj]
    exact ⟨rfl, rfl, rfl, rfl⟩
  | configureSlot slot spec wiring =>
    obtain ⟨io, j, hb, hio⟩ := b.perform_configureSlot slot spec wiring
    rw [hb]
    refine ⟨rfl, rfl, rfl, ?_⟩
    rcases hio with rfl | ⟨io', hconfigure, rfl⟩
    · rfl
    · exact (IoBank.configure_outputs hconfigure).1
  | loadRom p image =>
    obtain ⟨roms, loaded, hb⟩ := b.perform_loadRom p image
    rw [hb]
    exact ⟨rfl, rfl, rfl, rfl⟩
  | beginFrame | takeReset _ | notePc _ _ | setInput _ _ | press _ _ | takeEvents | unloadRom _
  | snapshot _ => exact ⟨rfl, rfl, rfl, rfl⟩
  | write _ _ _ | frameSync | machineReset => cases h

/-! ## One after the other -/

/-- The board after a list of operations. -/
def after (b : Board S) : List Operation → Board S
  | [] => b
  | op :: ops => (b.perform op).2.after ops

/-- What a list of operations gives back. -/
def answers (b : Board S) : List Operation → List Answer
  | [] => []
  | op :: ops => (b.perform op).1 :: (b.perform op).2.answers ops

/-- A list of operations, each with what it gave back. -/
def history (b : Board S) (ops : List Operation) : List (Operation × Answer) :=
  ops.zip (b.answers ops)

@[simp] theorem history_nil (b : Board S) : b.history [] = [] := rfl

@[simp] theorem history_cons (b : Board S) (op : Operation) (ops : List Operation) :
    b.history (op :: ops) = (op, (b.perform op).1) :: (b.perform op).2.history ops := rfl

/-- **What every operation keeps, every history keeps.** -/
theorem after_induction {P : Board S → Prop} (hstep : ∀ b op, P b → P (b.perform op).2)
    {b : Board S} (h : P b) (ops : List Operation) : P (b.after ops) := by
  induction ops generalizing b with
  | nil => exact h
  | cons op ops ih => exact ih (hstep b op h)

end Board

end Arcade
