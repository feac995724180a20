import Arcade.Proofs.Board.MachineReset
import Arcade.Proofs.Cabinet.Replay
import Arcade.Proofs.Machine.Idle
import Arcade.Proofs.Watchdog

/-!
# `Arcade.Proofs.Cabinet.IdleFrames` — a cabinet that nobody uses

A cabinet whose processors only pass the time does not stand still: its frames are counted, main runs its
cycles, and its watchdog, which nobody services, expires after every period and resets a machine that has
nothing to reset. After any number of frames all of this can be said at once, and nothing else has happened:
no interrupt was let through, no chip was pulsed, sub and sound were never released, no byte was written.

It does not matter how the cycles of a frame are cut into turns, nor which programs are mounted when.

## Contents
- `frameSync_of_held`: the end of a frame on a board with everything held and no interrupt enabled.
- `BoardState.idling`: the whole state after some frames; `frameSync_idling`.
- `Cabinet.Idles`: what a host may do, namely to mount programs and to run frames.
- `Cabinet.Idled`, kept by each of these, and `Cabinet.idle_frames_closed_form`.
-/

namespace Arcade

/-! ## The end of a frame -/

/-- A chip in reset takes no interrupt. -/
theorem IoBank.pulse_of_reset {a : IoBank} (h : ∀ i, (a.chipStates.get i).reset = true) (slot : Nat) :
    a.pulse slot = (false, a) := by
  unfold pulse
  by_cases hslot : slot < 2
  · have hreset : (a.slots.get ⟨slot, hslot⟩).chip.state.reset = true := by
      rw [← get_chipStates]
      exact h _
    have hpulse : (a.slots.get ⟨slot, hslot⟩).chip.pulse = (false, (a.slots.get ⟨slot, hslot⟩).chip) :=
      if_pos hreset
    rw [dif_pos hslot]
    dsimp only
    rw [hpulse]
    dsimp only
    rw [Pair.set_get]
  · rw [dif_neg hslot]

/-- At power-on both chips are in reset. -/
theorem IoBank.reset_of_powerOn {a : IoBank} (h : a.chipStates = .replicate .powerOn) (i : Fin 2) :
    (a.chipStates.get i).reset = true := by
  rw [h]
  match i with
  | 0 => rfl
  | 1 => rfl

namespace Board

variable {S : Type} [SoundChip S] {b : Board S}

omit [SoundChip S] in
/-- At power-on sub and sound are held. -/
theorem isHeld_of_powerOn (h : b.controls = .powerOn) {p : Processor} (hp : p ≠ .main) :
    b.isHeld p = true := by
  unfold isHeld
  rw [h]
  cases p with
  | main => exact absurd rfl hp
  | sub | sound => rfl

omit [SoundChip S] in
/-- No interrupt is let through that was not enabled. -/
theorem requestInterrupt_powerOn (h : b.controls = .powerOn) (p : Processor) :
    b.requestInterrupt p = (false, b) := by
  unfold requestInterrupt Controls.requestInterrupt
  rw [h]
  cases p with
  | main | sub | sound =>
    show (false, { b with controls := .powerOn }) = (false, b)
    rw [← h]

/-- **At the end of a frame nothing but the watchdogs moves** if everything is held. -/
theorem frameSync_of_held (hcontrols : b.controls = .powerOn)
    (hchips : ∀ i, (b.io.chipStates.get i).reset = true) :
    b.frameSync =
      (⟨.replicate false, .replicate false, b.tickWatchdogs.1⟩, b.tickWatchdogs.2) := by
  have hpulse (slot : Nat) : b.pulseChip slot = (false, b) := by
    unfold pulseChip
    rw [IoBank.pulse_of_reset hchips]
  unfold frameSync
  simp only [requestInterrupt_powerOn hcontrols, hpulse]
  rfl

end Board

/-- The state of a board on which nothing but the watchdog of main has moved for some frames. -/
def BoardState.idling (inputs : Inputs) (period : UInt32) (frames : Nat) : BoardState :=
  { memory := SharedRam.blank.images
    controls := .powerOn
    chips := .replicate .powerOn
    inputs := inputs
    outputs := .idle
    mainWatchdog := .unserviced period frames
    soundWatchdog := .ofPeriod period
    starfield := Vector.replicate _ 0
    pendingReset := .replicate (frames == 0)
    diagnostics := { Diagnostics.zero with watchdogResets := .ofNat (frames / period.toNat) } }

/-- What happened at the end of one of these frames: the watchdog expired if this was due. -/
def FrameSync.idling (period : UInt32) (frames : Nat) : FrameSync :=
  { irqs := .replicate false
    chipPulses := .replicate false
    watchdogReset := if period.toNat ∣ frames then some .main else none }

namespace Board

variable {S : Type} [SoundChip S] {b : Board S} {inputs : Inputs} {period : UInt32} {frames : Nat}

omit [SoundChip S] in
/-- The watchdog of sound rests while sound is held, so that only main's can expire. -/
theorem expired_idling (hperiod : period ≠ 0) (hcontrols : b.controls = .powerOn)
    (hmain : b.mainWatchdog = .unserviced period frames) :
    b.expired = if period.toNat ∣ frames + 1 then some .main else none := by
  have hsound : b.isHeld .sound = true := isHeld_of_powerOn hcontrols nofun
  unfold expired
  rw [hsound, hmain, Watchdog.tick_unserviced hperiod]
  simp only [decide_eq_true_eq, Bool.not_true, Bool.false_and, Bool.false_eq_true, if_false]

/-- **The end of a frame of an idling board.** Which resets are due afterwards depends on the watchdog. -/
theorem frameSync_idling (hperiod : period ≠ 0) {due : PerProcessor Bool}
    (h : b.state = { BoardState.idling inputs period frames with pendingReset := due }) :
    b.frameSync.1 = .idling period (frames + 1) ∧
      ∃ due, b.frameSync.2.state =
        { BoardState.idling inputs period (frames + 1) with pendingReset := due } := by
  have hcontrols : b.controls = .powerOn := congrArg BoardState.controls h
  have hmain : b.mainWatchdog = .unserviced period frames := congrArg BoardState.mainWatchdog h
  have hchips := IoBank.reset_of_powerOn (congrArg BoardState.chips h)
  have hticked : b.ticked.state = { b.state with mainWatchdog := .unserviced period (frames + 1) } := by
    have hsound : b.isHeld .sound = true := isHeld_of_powerOn hcontrols nofun
    unfold ticked
    rw [hsound, hmain, Watchdog.tick_unserviced hperiod]
    rfl
  rw [frameSync_of_held hcontrols hchips, tickWatchdogs_eq, expired_idling hperiod hcontrols hmain]
  unfold FrameSync.idling
  by_cases hdue : period.toNat ∣ frames + 1
  · rw [if_pos hdue]
    refine ⟨rfl, .replicate true, ?_⟩
    have hcounted : (b.ticked.countReset .main).state =
        { b.ticked.state with
          diagnostics.watchdogResets := b.ticked.state.diagnostics.watchdogResets + 1 } := rfl
    show (b.ticked.countReset .main).machineReset.state = _
    rw [state_machineReset, hcounted, hticked, h]
    -- everything is as a reset leaves it, and the watchdog has just begun its count
    unfold BoardState.idling BoardState.reset
    dsimp only
    rw [Watchdog.restart_unserviced hdue, Nat.succ_div_of_dvd hdue, UInt64.ofNat_add]
    rfl
  · rw [if_neg hdue]
    refine ⟨rfl, due, ?_⟩
    show b.ticked.state = _
    rw [hticked, h]
    unfold BoardState.idling
    rw [Nat.succ_div_of_not_dvd hdue]

end Board

/-! ## Frames -/

namespace Cabinet

variable {S : Type} [SoundChip S]

/-- What a cabinet can have become that is left to itself for some frames. All that a host does is to mount
programs, and to take them out. -/
inductive Idles : Cabinet Idle S → Nat → Cabinet Idle S → Prop
  | start (s : Cabinet Idle S) : Idles s 0 s
  | mount {s t u : Cabinet Idle S} {frames : Nat} {id : String} {image : List UInt8} (h : Idles s frames t)
      (hu : t.mount id image = .ok u) : Idles s frames u
  | unmount {s t u : Cabinet Idle S} {frames : Nat} {id : String} (h : Idles s frames t)
      (hu : t.unmount id = .ok u) : Idles s frames u
  | stepFrame {s t : Cabinet Idle S} {frames : Nat} (h : Idles s frames t) : Idles s (frames + 1) t.stepFrame

theorem Idles.framesLater {s t : Cabinet Idle S} {frames : Nat} (h : Idles s frames t) (more : Nat) :
    Idles s (frames + more) (t.framesLater more) := by
  induction more generalizing t frames with
  | zero => exact h
  | succ more ih =>
    have hlater := ih h.stepFrame
    rw [Nat.add_assoc, Nat.add_comm 1] at hlater
    exact hlater

/-- A cabinet has been left to itself for some frames, and is as that leaves it. -/
structure Idled (inputs : Inputs) (period : UInt32) (frames : Nat) (s : Cabinet Idle S) : Prop where
  state : s.board.state = .idling inputs period frames
  /-- Main may neither spend nor does it owe anything. -/
  credit : s.machine.credit.get .main = 0
  cyclesRun : s.machine.cyclesRun = ⟨.ofNat (frames * Machine.frameCycles), 0, 0⟩
  frame : s.frame = .ofNat frames
  lastSync : s.lastSync = if frames = 0 then .quiet else .idling period frames

variable {inputs : Inputs} {period : UInt32} {frames : Nat} {s t : Cabinet Idle S}

omit [SoundChip S] in
theorem Idled.mount {id : String} {image : List UInt8} (h : s.Idled inputs period frames)
    (ht : s.mount id image = .ok t) : t.Idled inputs period frames := by
  unfold Cabinet.mount at ht
  split at ht
  · cases ht
  split at ht
  · cases ht
  · next board hloaded =>
    obtain ⟨roms, rfl⟩ := Board.loadRom_eq_ok hloaded
    cases ht
    exact { h with }

omit [SoundChip S] in
theorem Idled.unmount {id : String} (h : s.Idled inputs period frames) (ht : s.unmount id = .ok t) :
    t.Idled inputs period frames := by
  unfold Cabinet.unmount at ht
  split at ht
  · cases ht
  · cases ht
    exact { h with }

/-! ### What can be read off the closed form -/

omit [SoundChip S] in
theorem Idled.controls (h : s.Idled inputs period frames) : s.board.controls = .powerOn :=
  congrArg BoardState.controls h.state

omit [SoundChip S] in
theorem Idled.chipStates (h : s.Idled inputs period frames) :
    s.board.io.chipStates = .replicate .powerOn := congrArg BoardState.chips h.state

omit [SoundChip S] in
theorem Idled.mainWatchdog (h : s.Idled inputs period frames) :
    s.board.mainWatchdog = .unserviced period frames := congrArg BoardState.mainWatchdog h.state

omit [SoundChip S] in
theorem Idled.bytes (h : s.Idled inputs period frames) (region : Region) :
    s.board.memory.bytes region = List.replicate region.size 0 := by
  have hbytes := congrArg (fun b => (b.memory.get region).bytes) h.state
  cases region <;> exact hbytes.trans Vector.toList_replicate

/-- **One frame more.** -/
theorem Idled.stepFrame (hperiod : period ≠ 0) (h : s.Idled inputs period frames) :
    s.stepFrame.Idled inputs period (frames + 1) := by
  let begun : Machine Idle S := { s.machine with board := s.machine.board.beginFrame }
  let ended : Machine Idle S := { begun.runFrame with board := begun.runFrame.board.frameSync.2 }
  have hbegun : begun.board.state = .idling inputs period frames := by
    show { s.board.state with
      chips := s.board.state.chips.map fun (c : ChipState) => { c with irqLine := false } } = _
    rw [h.state]
    rfl
  obtain ⟨hstate, howed, hran, hheld⟩ := Machine.runFrame_idle (m := begun) h.credit
  rw [hbegun] at hstate hheld
  obtain ⟨hsync, due, hend⟩ := Board.frameSync_idling hperiod hstate
  obtain ⟨j, hj⟩ := ended.syncLines_eq
  have hmachine : s.stepFrame.machine = ended.syncLines := rfl
  constructor
  case state =>
    show s.stepFrame.machine.board.state = _
    rw [hmachine, hj]
    show { begun.runFrame.board.frameSync.2.state with pendingReset := .replicate false } = _
    rw [hend]
    rfl
  case credit =>
    rw [hmachine, hj]
    show ended.restartedCredit .main = 0
    unfold Machine.restartedCredit
    split
    · rfl
    · exact howed
  case cyclesRun =>
    have hbefore : begun.cyclesRun = ⟨.ofNat (frames * Machine.frameCycles), 0, 0⟩ := h.cyclesRun
    rw [hbefore] at hran hheld
    rw [hmachine, hj]
    have hmain : begun.runFrame.cyclesRun.get .main = .ofNat ((frames + 1) * Machine.frameCycles) := by
      rw [hran, Nat.succ_mul, UInt64.ofNat_add]
      rfl
    have hsub : begun.runFrame.cyclesRun.get .sub = 0 := hheld .sub rfl
    have hsound : begun.runFrame.cyclesRun.get .sound = 0 := hheld .sound rfl
    refine PerProcessor.ext_get fun p => ?_
    cases p with
    | main => exact hmain
    | sub => exact hsub
    | sound => exact hsound
  case frame =>
    show s.frame + 1 = _
    rw [h.frame, UInt64.ofNat_add]
    rfl
  case lastSync =>
    rw [if_neg (Nat.succ_ne_zero frames)]
    exact hsync

/-- Whatever is mounted, a cabinet that is left to itself is as its frames leave it. -/
theorem Idled.of_idles (hperiod : period ≠ 0) (hs : s.Idled inputs period 0) (h : Idles s frames t) :
    t.Idled inputs period frames := by
  induction h with
  | start => exact hs
  | mount _ hu ih => exact ih.mount hu
  | unmount _ hu ih => exact ih.unmount hu
  | stepFrame _ ih => exact ih.stepFrame hperiod

omit [SoundChip S] in
/-- A cabinet that has just been put together. -/
theorem idled_stock {config : Config} (hperiod : config.watchdogFrames ≠ 0) (r : Revision) (sound : S)
    (journal : Journal) :
    (stock config r idleInterpreters sound journal).Idled
      (.atRest (config.dipAFor r) (config.dipBFor r)) config.watchdogFrames 0 := by
  constructor
  case state =>
    unfold BoardState.idling
    rw [Watchdog.unserviced_zero hperiod, Nat.zero_div]
    rfl
  case credit => rfl
  case cyclesRun =>
    rw [Nat.zero_mul]
    rfl
  case frame => rfl
  case lastSync => rfl

/-- **A cabinet left to itself in closed form.** For every valid configuration a cabinet can be put together with
interpreters that do nothing. Let it run for any number of frames, and mount any programs on the way. Then

- the frames have been counted, main has run 25344 cycles in each of them, and sub and sound none;
- the watchdog of main has expired once in every period and reset the machine, and has counted the frames
  since; no access has been counted that led nowhere;
- sub, sound and both chips are held, every interrupt is disabled and its line low, all shared memory is zero,
  and the outputs are at rest;
- at the end of the last frame, if there was one, no interrupt was let through and no chip pulsed, and the
  watchdog of main reset the machine exactly if the number of frames is a multiple of the period. -/
theorem idle_frames_closed_form {config : Config} {r : Revision} (h : config.check = .ok r) (sound : S)
    (journal : Journal) :
    ∃ s : Cabinet Idle S, assemble config idleInterpreters sound journal = .ok s ∧
      (∀ n, Idles s n (s.framesLater n)) ∧
      ∀ n t, Idles s n t →
        let p := config.watchdogFrames.toNat
        t.frame = .ofNat n ∧
        t.machine.cyclesRun = { main := .ofNat (n * 25344), sub := 0, sound := 0 } ∧
        t.board.diagnostics =
          { unmappedReads := 0, unmappedWrites := 0, romWrites := 0, watchdogResets := .ofNat (n / p) } ∧
        t.board.mainWatchdog.expirations = .ofNat (n / p) ∧
        t.board.mainWatchdog.elapsed.toNat = n % p ∧
        t.board.isHeld .sub = true ∧ t.board.isHeld .sound = true ∧
        t.board.controls.chipsHeld = true ∧ (∀ i, (t.board.io.chipStates.get i).reset = true) ∧
        (∀ q, t.board.controls.latches.get q = { enabled := false, line := false }) ∧
        (∀ region, t.board.memory.bytes region = List.replicate region.size 0) ∧
        t.board.io.outputs = .idle ∧
        (n ≠ 0 → t.lastSync =
          { irqs := ⟨false, false, false⟩
            chipPulses := ⟨false, false⟩
            watchdogReset := if p ∣ n then some .main else none }) := by
  obtain ⟨-, hperiod, -⟩ := Config.check_eq_ok.mp h
  refine ⟨_, assemble_eq h idleInterpreters sound journal, ?_, ?_⟩
  · intro n
    have hlater := (Idles.start (stock config r idleInterpreters sound journal)).framesLater n
    rw [Nat.zero_add] at hlater
    exact hlater
  · intro n t ht p
    have hidled := Idled.of_idles hperiod (idled_stock hperiod r sound journal) ht
    have hcontrols := hidled.controls
    have hmain := hidled.mainWatchdog
    refine ⟨hidled.frame, hidled.cyclesRun, congrArg BoardState.diagnostics hidled.state, ?_, ?_,
      Board.isHeld_of_powerOn hcontrols nofun, Board.isHeld_of_powerOn hcontrols nofun, ?_,
      IoBank.reset_of_powerOn hidled.chipStates, ?_, hidled.bytes,
      congrArg BoardState.outputs hidled.state, ?_⟩
    · rw [hmain]
      rfl
    · rw [hmain]
      exact Watchdog.toNat_elapsed_unserviced hperiod n
    · rw [hcontrols]
      rfl
    · intro q
      rw [hcontrols]
      cases q <;> rfl
    · intro hn
      have hsync := hidled.lastSync
      rw [if_neg hn] at hsync
      exact hsync

omit [SoundChip S] in
/-- A program of the right length can be mounted. -/
theorem exists_mount (s : Cabinet Idle S) {id : String} {p : Processor} {image : List UInt8}
    (hid : mountTarget? id = some p) (hlength : image.length = p.romSize) :
    ∃ t, s.mount id image = .ok t := by
  unfold Cabinet.mount Board.loadRom
  rw [hid]
  dsimp only
  rw [dif_pos hlength]
  exact ⟨_, rfl⟩

/-- Turns of 7 cycles, which no step of two fills, and a watchdog of three frames. Main's program is mounted, and
seven frames run. -/
theorem idle_frames_closed_form_odd_turns :
    let config := { Config.standard with sliceCycles := 7, watchdogFrames := 3 }
    config.check = .ok (Revision.all.head nofun) ∧
      ∃ s u : Cabinet Idle SoundRegisters,
        assemble config idleInterpreters SoundRegisters.silent .silent = .ok s ∧
          s.mount "maincpu" (List.replicate 0x6000 0x12) = .ok u ∧ Idles s 7 (u.framesLater 7) ∧
          (u.framesLater 7).machine.cyclesRun = ⟨177408, 0, 0⟩ ∧
          (u.framesLater 7).board.mainWatchdog.expirations = 2 ∧
          (u.framesLater 7).board.mainWatchdog.elapsed.toNat = 1 ∧
          (u.framesLater 6).lastSync.watchdogReset = some .main ∧
          (u.framesLater 7).lastSync.watchdogReset = none := by
  intro config
  have hconfig : config.check = .ok (Revision.all.head nofun) :=
    Config.check_eq_ok.mpr ⟨by decide, by decide, by decide +kernel⟩
  obtain ⟨s, hs, -, hform⟩ := idle_frames_closed_form hconfig SoundRegisters.silent .silent
  have hid : mountTarget? "maincpu" = some .main := by decide
  have hlength : (List.replicate 0x6000 (0x12 : UInt8)).length = Processor.romSize .main :=
    List.length_replicate
  obtain ⟨u, hu⟩ := s.exists_mount hid hlength
  have hidles (n : Nat) : Idles s n (u.framesLater n) := by
    have hlater := ((Idles.start s).mount hu).framesLater n
    rw [Nat.zero_add] at hlater
    exact hlater
  obtain ⟨-, hcycles, -, hexpired, helapsed, -, -, -, -, -, -, -, hsync⟩ := hform 7 _ (hidles 7)
  obtain ⟨-, -, -, -, -, -, -, -, -, -, -, -, hbefore⟩ := hform 6 _ (hidles 6)
  refine ⟨hconfig, s, u, hs, hu, hidles 7, hcycles, ?_, ?_, ?_, ?_⟩
  · rw [hexpired]
    decide +kernel
  · rw [helapsed]
    decide +kernel
  · rw [hbefore nofun]
    decide +kernel
  · rw [hsync nofun]
    decide +kernel

end Cabinet

end Arcade
