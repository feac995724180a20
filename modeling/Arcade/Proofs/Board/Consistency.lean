import Arcade.Proofs.Board.Effect
import Arcade.Proofs.Board.Reachable

/-!
# `Arcade.Proofs.Board.Consistency` — the lines of a board agree with each other

Some lines of the board are kept twice: the reset line of the chips is also the pin of each chip, and
the reset line of sub and sound is also the gate of the sound output and what the sound generator was
last told. `BoardState.Consistent` says that the copies agree, that no interrupt is raised behind a
disabled latch, and that each watchdog counts below its period. Every operation keeps it, and so does
restoring a state that has it; the sound generator is followed by `Board.InStep`.

## Contents
- `ChipState.Follows`, `BoardState.Consistent` and what each step of the board does to them.
- `Board.InStep`: the sound generator was last told the level that the controls hold.
- `Reachable.state_consistent`, `Reachable.inStep`, and `Reachable.lines_agree` with both.
-/

namespace Arcade

/-- A count below a period leaves room for the period. -/
theorem Watchdog.WellFormed.one_le_period {w : Watchdog} (h : w.WellFormed) : 1 ≤ w.period := by
  have hlt : w.elapsed.toNat < w.period.toNat := UInt32.lt_iff_toNat_lt.mp h
  exact UInt32.le_iff_toNat_le.mpr (by show 1 ≤ w.period.toNat; omega)

/-- A chip's reset pin is at a level, and in reset the chip raises no interrupt. -/
def ChipState.Follows (s : ChipState) (held : Bool) : Prop :=
  s.reset = held ∧ (s.reset = true → s.irqLine = false)

/-- **The redundant lines of a saved state agree.** -/
structure BoardState.Consistent (s : BoardState) : Prop where
  /-- A raised interrupt line belongs to an enabled latch. -/
  latches_gate : ∀ p, (s.controls.latches.get p).line = true → (s.controls.latches.get p).enabled = true
  /-- Sound is on exactly while sub and sound run. -/
  sound_follows : s.controls.soundOn = !s.controls.secondariesHeld
  /-- Both chips are at the level of their reset line. -/
  chips_follow : ∀ i, (s.chips.get i).Follows s.controls.chipsHeld
  /-- The main watchdog counts below its period. -/
  main_counts : 1 ≤ s.mainWatchdog.period ∧ s.mainWatchdog.elapsed < s.mainWatchdog.period
  /-- The sound watchdog counts below its period. -/
  sound_counts : 1 ≤ s.soundWatchdog.period ∧ s.soundWatchdog.elapsed < s.soundWatchdog.period
  /-- While sub and sound are held the sound watchdog does not count. -/
  sound_rests : s.controls.secondariesHeld = true → s.soundWatchdog.elapsed = 0
  /-- Each image has the tag and the size of its place. -/
  images_fit : ∀ r, (s.memory.get r).region = r ∧ (s.memory.get r).bytes.length = r.size

theorem Watchdog.WellFormed.counts {w : Watchdog} (h : w.WellFormed) :
    1 ≤ w.period ∧ w.elapsed < w.period := ⟨h.one_le_period, h⟩

theorem SharedRam.images_fit (m : SharedRam) (r : Region) :
    (m.images.get r).region = r ∧ (m.images.get r).bytes.length = r.size := by
  cases r <;> exact ⟨rfl, m.length_bytes _⟩

/-! ## Chips -/

namespace IoChip

variable {G L : Type} {held : Bool}

theorem follows_setReset (c : IoChip G L) (asserted : Bool) :
    (c.setReset asserted).state.Follows asserted := by
  refine ⟨rfl, ?_⟩
  intro h
  have ha : asserted = true := h
  subst ha
  rfl

theorem follows_pulse {c : IoChip G L} (h : c.state.Follows held) : c.pulse.2.state.Follows held := by
  unfold pulse
  cases hr : c.state.reset with
  | true => exact h
  | false => exact ⟨h.1, fun hreset => absurd (hr.symm.trans hreset) Bool.false_ne_true⟩

theorem follows_clearInterrupt {c : IoChip G L} (h : c.state.Follows held) :
    c.clearInterrupt.state.Follows held := ⟨h.1, fun _ => rfl⟩

end IoChip

namespace IoBank

/-- Both chips are at a level of the reset line. -/
def Follows (b : IoBank) (held : Bool) : Prop := ∀ i, (b.chipStates.get i).Follows held

theorem get_chipStates (b : IoBank) (i : Fin 2) : b.chipStates.get i = (b.slots.get i).chip.state :=
  Pair.get_map _ _ _

theorem follows_setReset (b : IoBank) (asserted : Bool) : (b.setReset asserted).1.Follows asserted := by
  intro i
  rw [get_chipStates]
  show ((b.slots.map fun s : IoSlot => { s with chip := s.chip.setReset asserted }).get i).chip.state.Follows
    asserted
  rw [Pair.get_map]
  exact IoChip.follows_setReset _ _

theorem Follows.clearInterrupts {b : IoBank} {held : Bool} (h : b.Follows held) :
    b.clearInterrupts.Follows held := by
  intro i
  have hi := h i
  rw [get_chipStates] at hi ⊢
  show ((b.slots.map fun s : IoSlot => { s with chip := s.chip.clearInterrupt }).get i).chip.state.Follows
    held
  rw [Pair.get_map]
  exact IoChip.follows_clearInterrupt hi

theorem Follows.pulse {b : IoBank} {held : Bool} (h : b.Follows held) (slot : Nat) :
    (b.pulse slot).2.Follows held := by
  unfold IoBank.pulse
  by_cases hs : slot < 2
  · rw [dif_pos hs]
    intro i
    have hi := h i
    have hslot := h ⟨slot, hs⟩
    rw [get_chipStates] at hi hslot ⊢
    show ((b.slots.modify ⟨slot, hs⟩ fun _ => _).get i).chip.state.Follows held
    rw [Pair.get_modify]
    split
    · exact IoChip.follows_pulse hslot
    · exact hi
  · rw [dif_neg hs]
    exact h

theorem chipStates_write (b : IoBank) (slot register : Nat) (data : UInt8) :
    (b.write slot register data).1.chipStates = b.chipStates := by
  unfold IoBank.write
  cases b.slot? slot with
  | none => rfl
  | some s =>
    dsimp only
    split <;> rfl

end IoBank

/-! ## What the steps of a board keep -/

namespace BoardState.Consistent

variable {S : Type} {b : Board S}

theorem serviceWatchdog (h : b.state.Consistent) (p : Processor) :
    (b.serviceWatchdog p).state.Consistent := by
  cases p with
  | main => exact { h with main_counts := (Watchdog.WellFormed.service h.main_counts.2).counts }
  | sub => exact h
  | sound =>
    exact { h with
      sound_counts := (Watchdog.WellFormed.service h.sound_counts.2).counts
      sound_rests := fun _ => rfl }

theorem switchInterrupt (h : b.state.Consistent) (p : Processor) (on : Bool) :
    (b.switchInterrupt p on).state.Consistent := by
  obtain ⟨j, hj⟩ := b.switchInterrupt_eq p on
  rw [hj]
  refine { h with latches_gate := ?_ }
  intro q
  show ((b.controls.latches.modify p fun l => l.switch on).get q).Sound
  rw [PerProcessor.get_modify]
  split
  · exact InterruptLatch.Sound.switch on
  · exact h.latches_gate q

theorem holdChips (h : b.state.Consistent) (p : Processor) (asserted : Bool) :
    (b.holdChips p asserted).state.Consistent := by
  obtain ⟨j, hj⟩ := b.holdChips_eq p asserted
  rw [hj]
  exact { h with chips_follow := b.io.follows_setReset asserted }

theorem read (h : b.state.Consistent) (p : Processor) (a : UInt16) :
    (b.read p a).2.state.Consistent := by
  obtain ⟨j, hj⟩ := b.read_snd p a
  rw [hj]
  cases AddressMap.decode p a .read with
  | ram _ | rom _ | io _ _ | control _ | unmapped => exact { h with }
  | watchdog => exact { h.serviceWatchdog p with }

theorem requestInterrupt (h : b.state.Consistent) (p : Processor) :
    (b.requestInterrupt p).2.state.Consistent := by
  refine { h with latches_gate := ?_ }
  intro q
  show ((b.controls.latches.modify p fun l => l.request.2).get q).Sound
  rw [PerProcessor.get_modify]
  split
  · exact InterruptLatch.Sound.request (h.latches_gate q)
  · exact h.latches_gate q

theorem pulseChip (h : b.state.Consistent) (slot : Nat) : (b.pulseChip slot).2.state.Consistent :=
  { h with chips_follow := IoBank.Follows.pulse h.chips_follow slot }

theorem beginFrame (h : b.state.Consistent) : b.beginFrame.state.Consistent :=
  { h with chips_follow := IoBank.Follows.clearInterrupts h.chips_follow }

theorem vblank (h : b.state.Consistent) : b.vblank.state.Consistent :=
  ((((h.requestInterrupt .main).pulseChip 0).pulseChip 1).requestInterrupt .sub).requestInterrupt .sound

theorem ticked (h : b.state.Consistent) : b.ticked.state.Consistent := by
  have hm := (Watchdog.WellFormed.tick h.main_counts.2).counts
  unfold Board.ticked
  cases hh : b.isHeld .sound with
  | true => exact { h with main_counts := hm }
  | false =>
    -- sub and sound run, so nothing is asked of the count of the sound watchdog
    have hruns : b.controls.secondariesHeld = false := hh
    exact { h with
      main_counts := hm
      sound_counts := (Watchdog.WellFormed.tick h.sound_counts.2).counts
      sound_rests := fun hheld => absurd (hruns.symm.trans hheld) Bool.false_ne_true }

section Chip

variable [SoundChip S]

theorem holdSecondaries (h : b.state.Consistent) (asserted : Bool) :
    (b.holdSecondaries asserted).state.Consistent := by
  rw [Board.holdSecondaries_eq]
  cases he : b.assertsHold asserted with
  | true =>
    exact { h with
      sound_follows := rfl
      sound_counts := (Watchdog.WellFormed.restart h.sound_counts.2).counts
      sound_rests := fun _ => rfl }
  | false =>
    -- no edge: if the line is asserted now it was before, and the watchdog rested already
    have hrest : asserted = true → b.soundWatchdog.elapsed = 0 := by
      intro ha
      subst ha
      have hheld : b.controls.secondariesHeld = true := by simpa [Board.assertsHold] using he
      exact h.sound_rests hheld
    exact { h with sound_follows := rfl, sound_rests := hrest }

theorem control (h : b.state.Consistent) (p : Processor) (s : Switch) (data : UInt8) :
    (b.control p s data).state.Consistent := by
  cases s with
  | interrupt q enable => exact h.switchInterrupt q enable
  | secondaries release => exact h.holdSecondaries (!release)
  | ioChips release => exact h.holdChips p (!release)
  | starfield register => exact { h with }

theorem write (h : b.state.Consistent) (p : Processor) (a : UInt16) (data : UInt8) :
    (b.write p a data).state.Consistent := by
  obtain ⟨j, hj⟩ := b.write_eq p a data
  rw [hj]
  cases AddressMap.decode p a .write with
  | ram cell => exact { h with images_fit := SharedRam.images_fit _ }
  | rom offset => exact { h with }
  | io slot register =>
    have hio : (b.io.write slot register data).1.Follows b.controls.chipsHeld := by
      unfold IoBank.Follows
      rw [IoBank.chipStates_write]
      exact h.chips_follow
    exact { h with chips_follow := hio }
  | watchdog => exact h.serviceWatchdog p
  | control s => exact h.control p s data
  | unmapped => exact { h with }

theorem machineReset (h : b.state.Consistent) : b.machineReset.state.Consistent := by
  obtain ⟨j, hj⟩ := b.machineReset_eq
  rw [hj]
  -- everything is set anew but for the latches of main and sound
  refine
    { latches_gate := fun q => ?_
      sound_follows := rfl
      chips_follow := b.io.follows_setReset true
      main_counts := (Watchdog.WellFormed.restart h.main_counts.2).counts
      sound_counts := (Watchdog.WellFormed.restart h.sound_counts.2).counts
      sound_rests := fun _ => rfl
      images_fit := SharedRam.images_fit _ }
  show ((b.controls.latches.modify .sub fun l => l.switch false).get q).Sound
  rw [PerProcessor.get_modify]
  split
  · exact InterruptLatch.Sound.switch false
  · exact h.latches_gate q

theorem tickWatchdogs (h : b.state.Consistent) : b.tickWatchdogs.2.state.Consistent := by
  rw [Board.tickWatchdogs_eq]
  cases b.expired with
  | none => exact h.ticked
  | some p =>
    have hcount : (b.ticked.countReset p).state.Consistent := { h.ticked with }
    exact hcount.machineReset

theorem frameSync (h : b.state.Consistent) : b.frameSync.2.state.Consistent := h.vblank.tickWatchdogs

/-- **Every operation keeps the lines of a board in agreement.** -/
theorem perform (h : b.state.Consistent) (op : Operation) : (b.perform op).2.state.Consistent := by
  cases op with
  | read p a => exact h.read p a
  | write p a data => exact h.write p a data
  | beginFrame => exact h.beginFrame
  | frameSync => exact h.frameSync
  | machineReset => exact h.machineReset
  | takeReset _ | setInput _ _ | press _ _ | takeEvents => exact { h with }
  | notePc _ _ | unloadRom _ | snapshot _ => exact h
  | configureSlot slot spec wiring =>
    obtain ⟨io, j, hb, hio⟩ := b.perform_configureSlot slot spec wiring
    rw [hb]
    rcases hio with rfl | ⟨io', _, rfl⟩
    · exact h
    · exact { h with chips_follow := io'.follows_setReset b.controls.chipsHeld }
  | loadRom p image =>
    obtain ⟨roms, loaded, hb⟩ := b.perform_loadRom p image
    rw [hb]
    exact h

theorem after (h : b.state.Consistent) (ops : List Operation) : (b.after ops).state.Consistent :=
  Board.after_induction (P := fun c => c.state.Consistent) (fun _ op hc => hc.perform op) h ops

end Chip

end BoardState.Consistent

theorem consistent_stock {S : Type} (layout : IoLayout) (inputs : Inputs) (frames : UInt32)
    (sound : S) : (Board.stock layout inputs frames sound).state.Consistent where
  latches_gate p := by
    show ((PerProcessor.replicate InterruptLatch.powerOn).get p).Sound
    rw [PerProcessor.get_replicate]
    exact InterruptLatch.sound_powerOn
  sound_follows := rfl
  chips_follow i := by
    show ((IoBank.stock layout inputs).chipStates.get i).Follows true
    rw [IoBank.get_chipStates]
    show ((layout.slots.map (IoSlot.stock layout.lamps)).get i).chip.state.Follows true
    rw [Pair.get_map]
    exact ⟨rfl, fun _ => rfl⟩
  main_counts := (Watchdog.wellFormed_ofPeriod frames).counts
  sound_counts := (Watchdog.wellFormed_ofPeriod frames).counts
  sound_rests _ := rfl
  images_fit := SharedRam.images_fit _

/-! ## The sound generator -/

namespace Board

variable {S : Type} [SoundChip S] {level : S → Bool} {b : Board S}

/-- The sound generator was last told the level of the sound output. -/
def InStep (level : S → Bool) (b : Board S) : Prop := level b.sound = b.controls.soundOn

theorem Shows.hear (hl : Shows level) (sound : S) (cell : Cell) (data : UInt8) :
    level (hear sound cell data) = level sound := by
  unfold Board.hear
  split
  · exact hl.write _ _ _
  · rfl

namespace InStep

theorem holdSecondaries (hl : Shows level) (h : b.InStep level) (asserted : Bool) :
    (b.holdSecondaries asserted).InStep level := by
  rw [holdSecondaries_eq]
  show level (if b.controls.soundOn = !asserted then b.sound else _) = !asserted
  split
  · next hsame => exact h.trans hsame
  · exact hl.enable _ _

theorem machineReset (hl : Shows level) (h : b.InStep level) : b.machineReset.InStep level := by
  obtain ⟨j, hj⟩ := b.machineReset_eq
  rw [hj]
  show level (if b.controls.soundOn = false then b.sound else _) = false
  split
  · next hoff => exact h.trans hoff
  · exact hl.enable _ _

theorem control (hl : Shows level) (h : b.InStep level) (p : Processor) (s : Switch)
    (data : UInt8) : (b.control p s data).InStep level := by
  cases s with
  | interrupt q enable =>
    obtain ⟨j, hj⟩ := b.switchInterrupt_eq q enable
    show (b.switchInterrupt q enable).InStep level
    rw [hj]
    exact h
  | secondaries release => exact h.holdSecondaries hl (!release)
  | ioChips release =>
    obtain ⟨j, hj⟩ := b.holdChips_eq p (!release)
    show (b.holdChips p (!release)).InStep level
    rw [hj]
    exact h
  | starfield register => exact h

omit [SoundChip S] in
theorem serviceWatchdog (h : b.InStep level) (p : Processor) : (b.serviceWatchdog p).InStep level := by
  cases p <;> exact h

omit [SoundChip S] in
theorem read (h : b.InStep level) (p : Processor) (a : UInt16) : (b.read p a).2.InStep level := by
  obtain ⟨j, hj⟩ := b.read_snd p a
  rw [hj]
  cases AddressMap.decode p a .read with
  | ram _ | rom _ | io _ _ | control _ | unmapped => exact h
  | watchdog => exact h.serviceWatchdog p

theorem write (hl : Shows level) (h : b.InStep level) (p : Processor) (a : UInt16) (data : UInt8) :
    (b.write p a data).InStep level := by
  obtain ⟨j, hj⟩ := b.write_eq p a data
  rw [hj]
  cases AddressMap.decode p a .write with
  | ram cell => exact (Shows.hear hl b.sound cell data).trans h
  | rom _ | io _ _ | unmapped => exact h
  | watchdog => exact h.serviceWatchdog p
  | control s => exact h.control hl p s data

theorem frameSync (hl : Shows level) (h : b.InStep level) : b.frameSync.2.InStep level := by
  rw [frameSync_eq]
  have hticked : b.vblank.ticked.InStep level := h
  cases b.expired with
  | none => exact hticked
  | some p =>
    have hcount : (b.vblank.ticked.countReset p).InStep level := hticked
    exact hcount.machineReset hl

theorem perform (hl : Shows level) (h : b.InStep level) (op : Operation) :
    (b.perform op).2.InStep level := by
  cases op with
  | read p a => exact h.read p a
  | write p a data => exact h.write hl p a data
  | frameSync => exact h.frameSync hl
  | machineReset => exact h.machineReset hl
  | beginFrame | takeReset _ | setInput _ _ | press _ _ | takeEvents => exact h
  | notePc _ _ | unloadRom _ | snapshot _ => exact h
  | configureSlot slot spec wiring =>
    obtain ⟨io, j, hb, _⟩ := b.perform_configureSlot slot spec wiring
    rw [hb]
    exact h
  | loadRom p image =>
    obtain ⟨roms, loaded, hb⟩ := b.perform_loadRom p image
    rw [hb]
    exact h

end InStep

/-! ## Reachable boards -/

/-- The state of a reachable board is consistent. A restored state comes from a reachable board, so the
induction covers it too. -/
theorem Reachable.state_consistent {S : Type} [SoundChip S] {sound : S} {b : Board S}
    (h : Reachable sound b) : b.state.Consistent := by
  induction h with
  | powerOn hb =>
    rw [powerOn_eq] at hb
    cases hb
    exact consistent_stock _ _ _ _
  | perform op _ ih => exact ih.perform op
  | restore _ _ hb _ ihSaved =>
    -- nothing of the board's own state is left
    rw [state_of_restore hb]
    exact ihSaved

/-- A sound generator that shows off at first is in step with every board it is fitted to. -/
theorem Reachable.inStep {S : Type} [SoundChip S] {sound : S} {b : Board S} (h : Reachable sound b)
    {level : S → Bool} (hl : Shows level) (hoff : level sound = false) : b.InStep level := by
  induction h with
  | powerOn hb =>
    rw [powerOn_eq] at hb
    cases hb
    exact hoff
  | perform op _ ih => exact (ih hl hoff).perform hl op
  | restore _ _ hb _ _ =>
    -- the generator is told the level of the saved state, even if it was at that level before
    rw [restore_state] at hb
    cases hb
    exact hl.enable _ _

/-- **The lines of every reachable board agree**, with each other and with what the sound generator was
last told, whatever was done to the board and whatever states of reachable boards were put into it. -/
theorem Reachable.lines_agree {S : Type} [SoundChip S] {chip : S} {b : Board (Recorded S)}
    (h : Reachable (Recorded.fitted chip) b) :
    b.state.Consistent ∧ b.sound.level = b.controls.soundOn :=
  ⟨h.state_consistent, h.inStep shows_level rfl⟩

/-- A board takes over the state of another, which has run for a frame with sub and sound released. -/
theorem Reachable.lines_agree_taken_over :
    let layout : IoLayout := ⟨⟨⟨.playerCoin, .part56⟩, ⟨.dipSwitch, .part58⟩⟩, true⟩
    let c := (stock layout (.atRest 0x00 0x12) 3 ([] : List SoundCall)).after
      [.write .main 0x8000 0, .write .main 0x7000 0, .frameSync]
    ∃ b : Board (Recorded SoundRegisters),
      (stock layout (.atRest 0xFF 0xF8) 8 (.fitted .silent)).restore c.state = .ok b ∧
        b.state.Consistent ∧ b.sound.level = true ∧ b.controls.irqLine .main = true := by
  intro layout c
  have hc : Reachable [] c :=
    (Reachable.powerOn (powerOn_eq layout (.atRest 0x00 0x12) 3 ([] : List SoundCall))).after _
  have hb := Reachable.powerOn
    (powerOn_eq layout (.atRest 0xFF 0xF8) 8 (Recorded.fitted SoundRegisters.silent))
  obtain ⟨hlines, hlevel⟩ := Reachable.lines_agree (hb.restore hc (restore_state _ c))
  exact ⟨_, restore_state _ c, hlines, hlevel, rfl⟩

end Board

end Arcade
