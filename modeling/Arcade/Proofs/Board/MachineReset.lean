import Arcade.Proofs.Board.Consistency
import Arcade.Proofs.Board.Runs

/-!
# `Arcade.Proofs.Board.MachineReset` — a reset is switching on but for what survives

A reset of the machine brings part of the board back to where switching on puts it, and leaves the rest. Which
part is which is not quite what one would guess: of the interrupts only that of sub is disabled, of the chips
only the pins are set, and of the watchdogs only the counts start again. `BoardState.resetFrom` draws the line
field by field, between the state that was and the state of any board that was just switched on.

A board that has been reset is at rest under a further reset, journal included, so resetting twice is resetting
once.

## Contents
- `BoardState.reset`, `state_machineReset`: what a reset makes of a state.
- `BoardState.resetFrom`, `resetFrom_stock`: which fields are those of a fresh board.
- `IoBank.setReset_setReset`, `Board.AtReset`, `machineReset_of_atReset`: nothing is left for a second reset.
- `Reachable.machineReset_partition`.
-/

namespace Arcade

/-! ## What is reset, and what survives -/

/-- A state after a reset. -/
def BoardState.reset (s : BoardState) : BoardState :=
  { s with
    memory := SharedRam.blank.images
    controls := s.controls.machineReset
    chips := s.chips.map fun c => { c with reset := true, irqLine := false }
    mainWatchdog := s.mainWatchdog.restart
    soundWatchdog := s.soundWatchdog.restart
    pendingReset := .replicate true }

/-- The state after a reset in terms of a board that has just been switched on: what is as there, and what is as
it was. -/
def BoardState.resetFrom (s fresh : BoardState) : BoardState :=
  { memory := fresh.memory
    controls :=
      { latches := ⟨s.controls.latches.main, fresh.controls.latches.sub, s.controls.latches.sound⟩
        secondariesHeld := fresh.controls.secondariesHeld
        chipsHeld := fresh.controls.chipsHeld
        soundOn := fresh.controls.soundOn }
    chips := s.chips.zipWith (fun c c' => { c' with pulses := c.pulses }) fresh.chips
    inputs := s.inputs
    outputs := s.outputs
    mainWatchdog :=
      { fresh.mainWatchdog with
        period := s.mainWatchdog.period
        expirations := s.mainWatchdog.expirations }
    soundWatchdog :=
      { fresh.soundWatchdog with
        period := s.soundWatchdog.period
        expirations := s.soundWatchdog.expirations }
    starfield := s.starfield
    pendingReset := fresh.pendingReset
    diagnostics := s.diagnostics }

/-- Chips that are in reset are not reset again, and have nothing to report. -/
theorem IoBank.setReset_setReset (a : IoBank) :
    (a.setReset true).1.setReset true = ((a.setReset true).1, []) := rfl

namespace Board

variable {S : Type}

/-- A board has nothing that a reset would change. -/
structure AtReset (b : Board S) : Prop where
  memory : b.memory = .blank
  controls : b.controls.machineReset = b.controls
  silent : b.controls.soundOn = false
  chips : b.io.setReset true = (b.io, [])
  mainWatchdog : b.mainWatchdog.restart = b.mainWatchdog
  soundWatchdog : b.soundWatchdog.restart = b.soundWatchdog
  pendingReset : b.pendingReset = .replicate true

variable [SoundChip S]

omit [SoundChip S] in
theorem resetFrom_stock (s : BoardState) (layout : IoLayout) (inputs : Inputs) (frames : UInt32) (sound : S) :
    s.resetFrom (stock layout inputs frames sound).state = s.reset := rfl

theorem state_machineReset (b : Board S) : b.machineReset.state = b.state.reset := by
  obtain ⟨j, hj⟩ := b.machineReset_eq
  rw [hj]
  rfl

theorem atReset_machineReset (b : Board S) : b.machineReset.AtReset := by
  obtain ⟨j, hj⟩ := b.machineReset_eq
  rw [hj]
  exact ⟨rfl, rfl, rfl, IoBank.setReset_setReset b.io, rfl, rfl, rfl⟩

/-- **A board at rest is not changed by a reset**, and reports nothing. -/
theorem machineReset_of_atReset {b : Board S} (h : b.AtReset) : b.machineReset = b := by
  unfold machineReset
  rw [h.chips, h.controls, h.mainWatchdog, h.soundWatchdog, ← h.pendingReset, ← h.memory, h.silent]
  show (b.switchSound false false).noteAll [] = b
  rw [switchSound_eq]
  rfl

/-- What a reset tells the sound generator: to be silent, unless it is. -/
theorem calls_machineReset (b : Board (Recorded S)) :
    b.machineReset.sound.calls =
      (if b.controls.soundOn then [.enable false] else []) ++ b.sound.calls := by
  obtain ⟨j, hj⟩ := b.machineReset_eq
  rw [hj]
  cases h : b.controls.soundOn with
  | false => rfl
  | true => rfl

/-- **A reset is switching on, but for what survives.** Compare any board that can come about with any that has
just been switched on, whatever chips it has. After a reset of the first

- its state is that of the second in the fields that `BoardState.resetFrom` takes from there, and its own in
  all others: the interrupts of main and sound, the pulses of the chips, the inputs and outputs, the periods
  and expirations of the watchdogs, the star field, and the counts;
- the sound generator was last told what that of the second was, namely to be silent, and was told so now
  only if its output was on;
- the events that are queued, the programs, how the chips are wired, which programs are loaded, and where the
  processors are have not changed.

A second reset changes nothing at all, so it tells the sound generator nothing. -/
theorem Reachable.machineReset_partition {chip other : S} {b fresh : Board (Recorded S)} {layout : IoLayout}
    {inputs : Inputs} {frames : UInt32} (h : Reachable (Recorded.fitted chip) b)
    (hfresh : Board.powerOn layout inputs frames (Recorded.fitted other) = .ok fresh) :
    b.machineReset.state = b.state.resetFrom fresh.state ∧
    b.machineReset.sound.level = fresh.sound.level ∧
    b.machineReset.sound.calls =
      (if b.controls.soundOn then [.enable false] else []) ++ b.sound.calls ∧
    b.machineReset.io.events = b.io.events ∧
    b.machineReset.hardware = b.hardware ∧
    b.machineReset.loaded = b.loaded ∧
    b.machineReset.pcs = b.pcs ∧
    b.machineReset.machineReset = b.machineReset := by
  rw [powerOn_eq] at hfresh
  cases hfresh
  have hsound : b.machineReset.InStep Recorded.level := (h.inStep shows_level rfl).machineReset shows_level
  have hrest := b.atReset_machineReset
  obtain ⟨j, hj⟩ := b.machineReset_eq
  refine ⟨?_, hsound.trans hrest.silent, b.calls_machineReset, ?_, b.hardware_machineReset, ?_, ?_,
    machineReset_of_atReset hrest⟩
  · rw [state_machineReset, resetFrom_stock]
  · rw [hj]
    rfl
  · rw [hj]
  · rw [hj]

/-- Main has released sub, sound and the chips, enabled its interrupt, lit a lamp, and taken an interrupt. -/
theorem Reachable.machineReset_partition_running :
    let layout : IoLayout := ⟨⟨⟨.playerCoin, .part56⟩, ⟨.dipSwitch, .part58⟩⟩, true⟩
    let b := (stock layout (.atRest 0xFF 0xF8) 8 (Recorded.fitted SoundRegisters.silent)).after
      [.write .main 0x8000 0, .write .main 0x9000 0, .write .main 0x7000 0, .write .sub 0x6001 0,
        .write .main 0x6800 0x01, .write .main 0x0100 0x42, .write .main 0xA002 5, .frameSync]
    let fresh := stock layout (.atRest 0x00 0x00) 3 (Recorded.fitted SoundRegisters.silent)
    b.machineReset.state = b.state.resetFrom fresh.state ∧ b.machineReset.state ≠ b.state ∧
      b.machineReset.sound.calls = [.enable false, .enable true] ∧
      b.machineReset.controls.latches = ⟨⟨true, true⟩, ⟨false, false⟩, ⟨false, false⟩⟩ ∧
      b.machineReset.io.outputs.lamps = ⟨true, false⟩ ∧ b.machineReset.machineReset = b.machineReset := by
  intro layout b fresh
  have hb : Reachable (Recorded.fitted SoundRegisters.silent) b := (Reachable.powerOn (powerOn_eq ..)).after _
  obtain ⟨hstate, -, hcalls, -, -, -, -, htwice⟩ :=
    Reachable.machineReset_partition hb (powerOn_eq layout (.atRest 0x00 0x00) 3 (Recorded.fitted .silent))
  refine ⟨hstate, ?_, ?_, ?_, ?_, htwice⟩
  · decide +kernel
  · rw [hcalls]
    decide +kernel
  · decide +kernel
  · decide +kernel

end Board

end Arcade
