import Arcade.Interpreter.Scripted
import Arcade.Proofs.Cabinet.SaveState
import Arcade.Proofs.Machine.Mirrors

/-!
# `Arcade.Proofs.Cabinet.Replay` — frames after a save state are played again

A cabinet is saved between two frames, runs on, and then loads what was saved. Its interpreters are not in
the save state; the host puts them back. From there the frames run once more as they did the first time,
with the same pictures, the same reports, the same cycles and the same save states, if each processor may
spend as much as it might then.

What a processor may still spend is not in the save state either, and loading leaves it as it is. A turn
that has spent too much, in the frame before the load, is made up for in the frame after it, and that can
be another step more or less than the first time (`replay_shifts`).

## Contents
- `FrameRecord`, `Cabinet.records`: what a host sees of the next frames.
- `Cabinet.Mirrors`: cabinets whose next frames are the same.
- `Cabinet.framesLater`, and what frames leave alone.
- `Cabinet.frames_replay`, and why it takes the credits: `replay_shifts`.
-/

namespace Arcade

/-- What a host sees of a frame. -/
structure FrameRecord where
  snapshot : Snapshot
  sync : FrameSync
  /-- The cycles that each processor ran during the frame. -/
  executed : PerProcessor UInt64
  /-- The save state after the frame. -/
  saved : Json

/-- Boards with the same hardware are wired alike. -/
theorem Board.sameWiring_of_hardware {S T : Type} {b : Board S} {c : Board T}
    (h : b.hardware = c.hardware) : b.SameWiring c := by
  have hwiring : b.io.wiring = c.io.wiring := congrArg Hardware.wiring h
  intro i
  have hslot := congrArg (·.get i) hwiring
  dsimp only [IoBank.wiring] at hslot
  rw [Pair.get_map, Pair.get_map] at hslot
  exact ⟨congrArg Prod.fst hslot, congrArg Prod.snd hslot⟩

namespace Cabinet

variable {σ S : Type} [Interpreter σ] [SoundChip S]

/-- What a host sees of the next frame. -/
def nextRecord (s : Cabinet σ S) : FrameRecord :=
  { snapshot := s.stepFrame.snapshot
    sync := s.stepFrame.lastSync
    executed := .tabulate fun p => s.stepFrame.machine.cyclesRun.get p - s.machine.cyclesRun.get p
    saved := s.stepFrame.saveState }

/-- What a host sees of the next frames. -/
def records (s : Cabinet σ S) : Nat → List FrameRecord
  | 0 => []
  | n + 1 => s.nextRecord :: s.stepFrame.records n

/-- The cabinet some frames later. -/
def framesLater (s : Cabinet σ S) : Nat → Cabinet σ S
  | 0 => s
  | n + 1 => s.stepFrame.framesLater n

omit [Interpreter σ] [SoundChip S] in
/-- The cabinet with other interpreters. -/
def withInterpreters (s : Cabinet σ S) (interpreters : PerProcessor σ) : Cabinet σ S :=
  { s with machine := { s.machine with interpreters := interpreters } }

/-! ## Cabinets that go on alike -/

/-- Two cabinets whose machines mirror each other, with the same revision and the same frame number. -/
structure Mirrors (queued : Array OutputEvent) (lead : Processor → UInt64) (s t : Cabinet σ S) : Prop where
  machine : s.machine.Mirrors queued lead t.machine
  revision : s.revision = t.revision
  frame : s.frame = t.frame

variable {queued : Array OutputEvent} {lead : Processor → UInt64} {s t : Cabinet σ S}

omit [Interpreter σ] [SoundChip S] in
theorem Mirrors.saveState (h : Mirrors queued lead s t) : s.saveState = t.saveState := by
  unfold Cabinet.saveState Cabinet.board
  rw [h.revision, h.frame, h.machine.board.state]

omit [Interpreter σ] [SoundChip S] in
theorem Mirrors.snapshot (h : Mirrors queued lead s t) : s.snapshot = t.snapshot := by
  unfold Cabinet.snapshot Cabinet.board
  rw [h.frame]
  exact h.machine.board.snapshot t.frame

/-- The machine once its processors have run the next frame. -/
def ranFrame (s : Cabinet σ S) : Machine σ S :=
  ({ s.machine with board := s.machine.board.beginFrame } : Machine σ S).runFrame

theorem machine_stepFrame (s : Cabinet σ S) :
    s.stepFrame.machine =
      ({ s.ranFrame with board := s.ranFrame.board.frameSync.2 } : Machine σ S).syncLines := rfl

/-- **A frame is the same on cabinets that mirror each other**, and they still do afterwards. -/
theorem Mirrors.stepFrame (h : Mirrors queued lead s t) :
    s.stepFrame.lastSync = t.stepFrame.lastSync ∧ Mirrors queued lead s.stepFrame t.stepFrame := by
  have hbegun : ({ s.machine with board := s.machine.board.beginFrame } : Machine σ S).Mirrors queued lead
      { t.machine with board := t.machine.board.beginFrame } :=
    { h.machine with board := { h.machine.board with io := h.machine.board.io.clearInterrupts } }
  have hran : s.ranFrame.Mirrors queued lead t.ranFrame := hbegun.runFrame
  obtain ⟨hsync, hboard⟩ := hran.board.frameSync
  have hended : ({ s.ranFrame with board := s.ranFrame.board.frameSync.2 } : Machine σ S).Mirrors queued lead
      { t.ranFrame with board := t.ranFrame.board.frameSync.2 } :=
    { hran with board := hboard }
  exact ⟨hsync, { machine := hended.syncLines, revision := h.revision, frame := congrArg (· + 1) h.frame }⟩

theorem Mirrors.nextRecord (h : Mirrors queued lead s t) : s.nextRecord = t.nextRecord := by
  obtain ⟨hsync, hnext⟩ := h.stepFrame
  have hexecuted (p : Processor) :
      s.stepFrame.machine.cyclesRun.get p - s.machine.cyclesRun.get p =
        t.stepFrame.machine.cyclesRun.get p - t.machine.cyclesRun.get p := by
    rw [h.machine.cyclesRun p, hnext.machine.cyclesRun p]
    grind
  unfold Cabinet.nextRecord
  rw [hnext.snapshot, hsync, hnext.saveState, funext hexecuted]

/-- **All the next frames are the same** on cabinets that mirror each other. -/
theorem Mirrors.records (h : Mirrors queued lead s t) (n : Nat) : s.records n = t.records n := by
  induction n generalizing s t with
  | zero => rfl
  | succ n ih =>
    show s.nextRecord :: s.stepFrame.records n = t.nextRecord :: t.stepFrame.records n
    rw [h.nextRecord, ih h.stepFrame.2]

/-! ## What frames leave alone -/

theorem framesLater_ran (s : Cabinet σ S) (n : Nat) : s.machine.Ran (s.framesLater n).machine := by
  induction n generalizing s with
  | zero => exact ⟨.refl, rfl⟩
  | succ n ih => exact s.stepFrame_ran.trans (ih s.stepFrame)

theorem revision_framesLater (s : Cabinet σ S) (n : Nat) : (s.framesLater n).revision = s.revision := by
  induction n generalizing s with
  | zero => rfl
  | succ n ih => exact ih s.stepFrame

/-- After a frame no reset is due. -/
theorem pendingReset_stepFrame (s : Cabinet σ S) :
    s.stepFrame.machine.board.pendingReset = .replicate false := by
  obtain ⟨j, hj⟩ := ({ s.ranFrame with board := s.ranFrame.board.frameSync.2 } : Machine σ S).syncLines_eq
  rw [machine_stepFrame, hj]

/-! ## Playing frames again -/

/-- **A cabinet that is loaded again mirrors the one that was saved**, once it has its interpreters back,
if no reset was due, and if the processors may spend as much. -/
theorem mirrors_reloaded {s t : Cabinet σ S} (hrevision : t.revision = s.revision)
    (hslice : t.machine.slice = s.machine.slice) (hcredit : t.machine.credit = s.machine.credit)
    (hhardware : t.machine.board.hardware = s.machine.board.hardware)
    (hdue : s.machine.board.pendingReset = .replicate false) :
    ∃ queued lead, Mirrors queued lead s ((t.reloaded s).withInterpreters s.machine.interpreters) := by
  have hroms : s.machine.board.roms = t.machine.board.roms := congrArg Hardware.roms hhardware.symm
  obtain ⟨r, hr, -, hboard⟩ := Board.restore_mirrors (Board.sameWiring_of_hardware hhardware.symm) hroms
  rw [Board.restore_state_eq_adopt] at hr
  cases hr
  have hdue' : (t.machine.board.adopt s.machine.board).pendingReset = .replicate false := hdue
  -- nothing reaches the interpreters but their lines, and the credits stay
  obtain ⟨j, interpreters, hmachine⟩ := Machine.syncLines_of_not_due
    (m := { t.machine with board := t.machine.board.adopt s.machine.board }) hdue'
  let lead (p : Processor) : UInt64 := s.machine.cyclesRun.get p - t.machine.cyclesRun.get p
  refine ⟨s.machine.board.io.events, lead, ?_⟩
  have hmirrors : s.machine.Mirrors s.machine.board.io.events lead
      { (t.reloaded s).machine with interpreters := s.machine.interpreters } := by
    unfold reloaded board
    rw [hmachine]
    exact
      { board := { hboard with }
        interpreters := rfl
        slice := hslice.symm
        credit := hcredit.symm
        cyclesRun := fun p => by rw [UInt64.add_comm, UInt64.sub_add_cancel] }
  exact { machine := hmirrors, revision := hrevision.symm, frame := rfl }

/-- **Frames replay.** Take any cabinet that has just run a frame, save it, let it run any number of frames
more, load what was saved, and put the interpreters back as they were. If each processor may spend as much
as it might when the cabinet was saved, then the next frames, however many, are those that came after the
save the first time: the same pictures, the same reports, the same cycles run by each processor, and the
same save states. -/
theorem frames_replay (s₀ : Cabinet σ S) (m n : Nat)
    (hcredit : (s₀.stepFrame.framesLater m).machine.credit = s₀.stepFrame.machine.credit) :
    ∃ t, (s₀.stepFrame.framesLater m).loadState s₀.stepFrame.saveState = .ok t ∧
      (t.withInterpreters s₀.stepFrame.machine.interpreters).records n = s₀.stepFrame.records n := by
  have hdue := s₀.pendingReset_stepFrame
  generalize s₀.stepFrame = s at hcredit hdue ⊢
  have hran := s.framesLater_ran m
  have hrevision := s.revision_framesLater m
  obtain ⟨queued, lead, hmirrors⟩ := mirrors_reloaded hrevision hran.slice hcredit
    hran.board.hardware_eq hdue
  exact ⟨(s.framesLater m).reloaded s, loadState_saveState_eq _ s hrevision, (hmirrors.records n).symm⟩

/-- Steps that divide a turn leave nothing over, so every frame can be played again. Here each step of main
takes half a frame; two frames later the state that was saved is loaded, and three frames are the same. -/
theorem frames_replay_even_steps :
    let config := { Config.standard with sliceCycles := 25344 }
    let main : Script := ⟨[.increment 0x100], true, #[12672], [], 0⟩
    let waiting : Script := ⟨[], false, #[], [], 0⟩
    let scripted : PerProcessor Scripted := ⟨.ofScript main, .ofScript waiting, .ofScript waiting⟩
    let first := stock config (Revision.all.head nofun) scripted SoundRegisters.silent .silent
    (first.stepFrame.framesLater 2).machine.credit = first.stepFrame.machine.credit ∧
      ∃ t, (first.stepFrame.framesLater 2).loadState first.stepFrame.saveState = .ok t ∧
        (t.withInterpreters first.stepFrame.machine.interpreters).records 3 = first.stepFrame.records 3 := by
  intro config main waiting scripted first
  have hcredit : (first.stepFrame.framesLater 2).machine.credit = first.stepFrame.machine.credit := by
    decide +kernel
  exact ⟨hcredit, frames_replay first 2 3 hcredit⟩

/-- **Without the credits frames need not replay.** The steps of main take 17000 cycles, and a turn is a
whole frame. The first frame has two steps and spends 8656 cycles too much, so that the second has one. It
spends 312 too much. When the state after the first frame is then loaded only those are made up for, and
the second frame has two steps when it is played again. -/
theorem replay_shifts :
    let config := { Config.standard with sliceCycles := 25344 }
    let main : Script := ⟨[.increment 0x100], true, #[17000], [], 0⟩
    let waiting : Script := ⟨[], false, #[], [], 0⟩
    let scripted : PerProcessor Scripted := ⟨.ofScript main, .ofScript waiting, .ofScript waiting⟩
    let first := stock config (Revision.all.head nofun) scripted SoundRegisters.silent .silent
    first.stepFrame.Reachable ∧
      ∃ t, (first.stepFrame.framesLater 1).loadState first.stepFrame.saveState = .ok t ∧
        (t.withInterpreters first.stepFrame.machine.interpreters).records 1 ≠ first.stepFrame.records 1 := by
  intro config main waiting scripted first
  have hconfig : config.check = .ok (Revision.all.head nofun) :=
    Config.check_eq_ok.mpr ⟨by decide, by decide, by decide +kernel⟩
  have hreachable : first.stepFrame.Reachable :=
    .stepFrame (.assemble (assemble_eq hconfig scripted SoundRegisters.silent .silent))
  have hload := loadState_saveState_eq (first.stepFrame.framesLater 1) first.stepFrame
    (first.stepFrame.revision_framesLater 1)
  refine ⟨hreachable, _, hload, ?_⟩
  intro hsame
  have hfirst : (first.stepFrame.records 1).map (·.executed) = [⟨17000, 0, 0⟩] := by decide +kernel
  have hagain : ((((first.stepFrame.framesLater 1).reloaded first.stepFrame).withInterpreters
      first.stepFrame.machine.interpreters).records 1).map (·.executed) = [⟨34000, 0, 0⟩] := by
    decide +kernel
  rw [hsame, hfirst] at hagain
  exact absurd hagain (by decide)

end Cabinet

end Arcade
