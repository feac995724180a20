import Arcade.Interpreter.Scripted
import Arcade.Proofs.Board.Encoding
import Arcade.Proofs.Cabinet.Reachable
import Arcade.Proofs.Machine.SyncLines

/-!
# `Arcade.Proofs.Cabinet.SaveState` — a save state always loads back

What a cabinet saves can be loaded into every cabinet of the same revision, whatever has been done to
either of them. Only the resets that were due are not found again in what is saved afterwards: loading
passes them on to the interpreters.

## Contents
- `SaveState.Holds`, `check_eq_ok`: what it takes for the parts of a save state to be found.
- `Cabinet.holds_saveState`: what a cabinet saves has them.
- `Cabinet.reloaded`, `loadState_saveState_eq`: the cabinet that loading gives.
- `Cabinet.save_state_loads_back`.
-/

namespace Arcade

namespace Board

variable {S T : Type} [SoundChip S]

/-- The board `b` with the state of `c` put into it. -/
def adopt (b : Board S) (c : Board T) : Board S :=
  { b with
    memory := c.memory
    controls := c.controls
    io := b.io.restore c.io.chipStates c.io.inputs c.io.outputs
    mainWatchdog := c.mainWatchdog
    soundWatchdog := c.soundWatchdog
    starfield := c.starfield
    pendingReset := c.pendingReset
    diagnostics := c.diagnostics
    sound := SoundChip.setEnabled b.sound c.controls.soundOn }

theorem restore_state_eq_adopt (b : Board S) (c : Board T) : b.restore c.state = .ok (b.adopt c) :=
  restore_state b c

end Board

theorem Revision.sameName_self (name : String) : Revision.sameName name name = true := by
  simp [Revision.sameName]

/-! ## The parts of a save state -/

namespace SaveState

/-- A value is a save state for a revision, with the given parts. -/
structure Holds (revision : String) (v : Json) (saved : SavedGame) : Prop where
  system : (v.get? "system").bind Json.asString? = some mark
  version : (v.get? "version").bind (Json.asBelow? UInt64.size) = some version
  revision : Revision.sameName (((v.get? "revision").bind Json.asString?).getD "") revision = true
  frame : (v.get? "frame").bind Json.asUInt64? = some saved.frame
  board : (v.get? "board").bind BoardState.ofJson? = some saved.board

/-- The checks pass exactly for the save states of the revision. -/
theorem check_eq_ok {revision : String} {v : Json} {saved : SavedGame} :
    check revision v = .ok saved ↔ Holds revision v saved := by
  constructor
  · intro h
    unfold check at h
    split at h
    · cases h
    next hsystem =>
    dsimp only at h
    split at h
    · cases h
    next hversion =>
    split at h
    · cases h
    next hrevision =>
    split at h
    · cases h
    next frame hframe =>
    split at h
    · cases h
    next board hboard =>
    cases h
    exact
      { system := Decidable.not_not.mp hsystem, version := Decidable.not_not.mp hversion
        revision := by simpa using hrevision, frame := hframe, board := hboard }
  · intro h
    unfold check
    rw [if_neg (Decidable.not_not.mpr h.system)]
    dsimp only
    rw [if_neg (Decidable.not_not.mpr h.version), h.revision, h.frame, h.board]
    rfl

end SaveState

namespace Cabinet

variable {σ S τ T : Type}

/-- **What a cabinet saves is a save state for its revision**, and its parts are those of the cabinet. -/
theorem holds_saveState (s : Cabinet σ S) :
    SaveState.Holds s.revision.name s.saveState ⟨s.frame, s.board.state⟩ := by
  have hversion : s.saveState.get? "version" = some (.nat SaveState.version) := rfl
  have hrevision : s.saveState.get? "revision" = some (.string s.revision.name) := rfl
  have hframe : s.saveState.get? "frame" = some (.nat s.frame.toNat) := rfl
  have hboard : s.saveState.get? "board" = some s.board.state.toJson := rfl
  refine { system := rfl, version := ?_, revision := ?_, frame := ?_, board := ?_ }
  · rw [hversion, Option.bind_some]
    exact Json.asBelow?_nat (by decide)
  · rw [hrevision]
    exact Revision.sameName_self s.revision.name
  · rw [hframe, Option.bind_some]
    exact Json.reads_uint64 s.frame
  · rw [hboard, Option.bind_some]
    exact BoardState.reads s.board.state

/-! ## Loading -/

section Loading

variable [Interpreter τ] [SoundChip T]

/-- The cabinet `t` with the save state of `s` in it. -/
def reloaded (t : Cabinet τ T) (s : Cabinet σ S) : Cabinet τ T :=
  { t with
    machine := ({ t.machine with board := t.board.adopt s.board } : Machine τ T).syncLines
    frame := s.frame }

theorem loadState_saveState_eq (t : Cabinet τ T) (s : Cabinet σ S) (h : t.revision = s.revision) :
    t.loadState s.saveState = .ok (t.reloaded s) := by
  have hcheck : SaveState.check t.revision.name s.saveState = .ok ⟨s.frame, s.board.state⟩ := by
    rw [h]
    exact SaveState.check_eq_ok.mpr s.holds_saveState
  unfold loadState
  rw [hcheck]
  dsimp only
  rw [Board.restore_state_eq_adopt]
  rfl

/-- A reloaded cabinet is saved like the cabinet it was loaded from, with no reset due. -/
theorem state_reloaded (t : Cabinet τ T) (s : Cabinet σ S) :
    (t.reloaded s).board.state = { s.board.state with pendingReset := .replicate false } := by
  obtain ⟨j, hj⟩ := ({ t.machine with board := t.board.adopt s.board } : Machine τ T).syncLines_eq
  unfold board reloaded
  rw [hj]
  rfl

/-- **What loading does to the interpreters.** -/
theorem interpreters_reloaded (t : Cabinet τ T) (s : Cabinet σ S) (p : Processor) :
    (t.reloaded s).board.irqLine p = s.board.irqLine p ∧
      (t.reloaded s).machine.interpreters.get p =
        Interpreter.setIrqLine
          (if s.board.pendingReset.get p then Interpreter.reset (t.machine.interpreters.get p)
            else t.machine.interpreters.get p)
          (s.board.irqLine p) := by
  obtain ⟨j, hj⟩ := ({ t.machine with board := t.board.adopt s.board } : Machine τ T).syncLines_eq
  unfold board reloaded
  rw [hj]
  exact ⟨rfl, PerProcessor.get_tabulate _ p⟩

/-- **A save state always loads back.** What a cabinet saved can be loaded into any cabinet of the same
revision, and what that cabinet saves then is the same but for the resets that were due. Those have
reached the interpreters: each is reset once if its processor had a reset coming, and not otherwise, and
is then shown the level of its interrupt line, which is as it was saved. -/
theorem save_state_loads_back (t : Cabinet τ T) (s : Cabinet σ S) (h : t.revision = s.revision) :
    ∃ t', t.loadState s.saveState = .ok t' ∧
      t'.saveState = (s.mapBoard fun b => { b with pendingReset := .replicate false }).saveState ∧
      ∀ p, t'.board.irqLine p = s.board.irqLine p ∧
        t'.machine.interpreters.get p =
          Interpreter.setIrqLine
            (if s.board.pendingReset.get p then Interpreter.reset (t.machine.interpreters.get p)
              else t.machine.interpreters.get p)
            (s.board.irqLine p) := by
  refine ⟨t.reloaded s, t.loadState_saveState_eq s h, ?_, t.interpreters_reloaded s⟩
  have hrevision : (t.reloaded s).revision = s.revision := h
  have hframe : (t.reloaded s).frame = s.frame := rfl
  unfold saveState
  rw [hrevision, hframe, state_reloaded]
  rfl

/-- Main had no reset coming and its interrupt line was raised; sub and sound had just been held again.
The cabinet that takes the state over has other switches, other turns and other interpreters. -/
theorem save_state_loads_back_held_again :
    let changed := { Config.standard with dipA := some 0x12, sliceCycles := 100 }
    let scripted : PerProcessor Scripted := .replicate (.ofScript ⟨[], false, #[8], [], 0⟩)
    let ops : List Operation := [.takeReset .main, .takeReset .sub, .takeReset .sound,
      .write .main 0x8000 0, .write .main 0x8800 0, .write .main 0x7000 0, .frameSync]
    ∃ saver loader,
      assemble Config.standard idleInterpreters SoundRegisters.silent .silent = .ok saver ∧
      assemble changed scripted ([] : List SoundCall) .silent = .ok loader ∧
      ∃ t', loader.loadState (saver.mapBoard fun b => b.after ops).saveState = .ok t' ∧
        t'.saveState = (saver.mapBoard fun b =>
          { b.after ops with pendingReset := .replicate false }).saveState ∧
        t'.machine.interpreters.map (fun c => (c.resets, c.irq)) =
          ⟨(0, true), (1, false), (1, false)⟩ := by
  intro changed scripted ops
  have hsaver : Config.standard.check = .ok (Revision.all.head nofun) := rfl
  have hloader : changed.check = .ok (Revision.all.head nofun) :=
    Config.check_eq_ok.mpr ⟨by decide, by decide, by decide +kernel⟩
  refine ⟨_, _, assemble_eq hsaver .., assemble_eq hloader .., ?_⟩
  obtain ⟨t', hload, hsaved, hinterpreters⟩ := save_state_loads_back
    (stock changed (Revision.all.head nofun) scripted ([] : List SoundCall) .silent)
    ((stock Config.standard (Revision.all.head nofun) idleInterpreters SoundRegisters.silent .silent).mapBoard
      fun b => b.after ops) rfl
  refine ⟨t', hload, hsaved, PerProcessor.ext_get fun p => ?_⟩
  rw [PerProcessor.get_map, (hinterpreters p).2]
  cases p <;> decide +kernel

end Loading

end Cabinet

end Arcade
