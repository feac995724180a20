import Arcade.Board.State

/-!
# `Arcade.Proofs.Board.Effect` — the board's steps as updates of its record

Each step of the board that is made of several is written here as one update of the record, so that a
proof about one part of the board reads off what becomes of that part. Reports are kept apart: where a
step reports something, the update says only that some journal results.

The end of a frame is cut in two. `Board.vblank` is the board once all interrupts have been requested;
`Board.expired` names the watchdog that then resets the machine.

## Contents
- `switchSound_eq`, `soundWrite_eq`, `holdSecondaries_eq`, `holdChips_eq`, `switchInterrupt_eq`,
  `machineReset_eq`.
- `Board.vblank`, `Board.expired`, `Board.ticked`, and the end of a frame in these terms.
- `read_snd`, `read_changes`, `control_eq`, `control_changes`, `write_eq`: what accesses make of the board.
- `Board.stock`: the board that switching on gives, which never fails.
- `IoBank.configure_outputs`, `configureSlot_eq_ok`, `loadRom_eq_ok`, `restore_state`: what success means.
-/

namespace Arcade

namespace Board

variable {S : Type}

/-! ## Control registers and the sound generator -/

theorem holdChips_eq (b : Board S) (p : Processor) (asserted : Bool) :
    ∃ j, b.holdChips p asserted =
      { b with
        controls := (b.controls.holdChips asserted).2
        io := (b.io.setReset asserted).1
        journal := j } := by
  unfold holdChips
  by_cases hc : (b.controls.holdChips asserted).1 = true
  · simp only [hc, if_true]
    exact ⟨_, rfl⟩
  · simp only [hc]
    exact ⟨_, rfl⟩

theorem switchInterrupt_eq (b : Board S) (p : Processor) (on : Bool) :
    ∃ j, b.switchInterrupt p on =
      { b with controls := b.controls.switchInterrupt p on, journal := j } := by
  unfold switchInterrupt
  by_cases he : (b.controls.latches.get p).enabled = on
  · rw [if_pos he]; exact ⟨_, rfl⟩
  · rw [if_neg he]; exact ⟨_, rfl⟩

section Chip

variable [SoundChip S]

theorem switchSound_eq (b : Board S) (before after : Bool) :
    b.switchSound before after =
      { b with
        sound := if before = after then b.sound else SoundChip.setEnabled b.sound after } := by
  unfold switchSound
  split <;> rfl

/-- What a sound generator has become once a byte was written into a cell: the first cells of sound
memory are its registers. -/
def hear (sound : S) (cell : Cell) (data : UInt8) : S :=
  if cell.region = .sound ∧ cell.offset.val < soundRegisterCount then
    SoundChip.writeRegister sound (UInt8.ofNat cell.offset.val) data
  else sound

theorem soundWrite_eq (b : Board S) (cell : Cell) (data : UInt8) :
    b.soundWrite cell data = { b with sound := hear b.sound cell data } := by
  unfold soundWrite hear
  split <;> rfl

/-- Whether a level of the reset line of sub and sound is an edge that asserts it. -/
def assertsHold (b : Board S) (asserted : Bool) : Bool := asserted && !b.controls.secondariesHeld

theorem holdSecondaries_eq (b : Board S) (asserted : Bool) :
    b.holdSecondaries asserted =
      { b with
        controls := (b.controls.holdSecondaries asserted).2
        pendingReset :=
          if b.assertsHold asserted then (b.pendingReset.set .sub true).set .sound true
          else b.pendingReset
        soundWatchdog :=
          if b.assertsHold asserted then b.soundWatchdog.restart else b.soundWatchdog
        sound :=
          if b.controls.soundOn = !asserted then b.sound
          else SoundChip.setEnabled b.sound (!asserted) } := by
  unfold holdSecondaries
  have hedge : (b.controls.holdSecondaries asserted).1 = b.assertsHold asserted := rfl
  cases he : b.assertsHold asserted with
  | true =>
    rw [he] at hedge
    simp only [switchSound_eq, hedge, if_true]
  | false =>
    rw [he] at hedge
    simp only [switchSound_eq, hedge, Bool.false_eq_true, if_false]

theorem machineReset_eq (b : Board S) :
    ∃ j, b.machineReset =
      { b with
        memory := .blank
        controls := b.controls.machineReset
        io := (b.io.setReset true).1
        mainWatchdog := b.mainWatchdog.restart
        soundWatchdog := b.soundWatchdog.restart
        pendingReset := .replicate true
        sound :=
          if b.controls.soundOn = false then b.sound else SoundChip.setEnabled b.sound false
        journal := j } := by
  unfold machineReset
  simp only [switchSound_eq]
  exact ⟨_, rfl⟩

/-! ## The end of a frame -/

/-- The board once the interrupts of the end of a frame have been requested. -/
def vblank (b : Board S) : Board S :=
  let b := (((b.requestInterrupt .main).2.pulseChip 0).2.pulseChip 1).2
  ((b.requestInterrupt .sub).2.requestInterrupt .sound).2

/-- The processor whose watchdog expires if the watchdogs tick now; the main one comes first. -/
def expired (b : Board S) : Option Processor :=
  if b.mainWatchdog.tick.1 then some .main
  else if !b.isHeld .sound && b.soundWatchdog.tick.1 then some .sound
  else none

/-- The board with its watchdogs one tick on. -/
def ticked (b : Board S) : Board S :=
  { b with
    mainWatchdog := b.mainWatchdog.tick.2
    soundWatchdog := if b.isHeld .sound then b.soundWatchdog else b.soundWatchdog.tick.2 }

omit [SoundChip S] in
theorem pulseChip_changes (b : Board S) (slot : Nat) :
    ∃ io, (b.pulseChip slot).2 = { b with io := io } ∧ io.outputs = b.io.outputs := by
  refine ⟨(b.io.pulse slot).2, rfl, ?_⟩
  unfold IoBank.pulse
  split <;> rfl

omit [SoundChip S] in
/-- Requesting interrupts touches the latches and the chips alone, and no output. -/
theorem vblank_changes (b : Board S) :
    ∃ latches io,
      b.vblank = { b with controls := { b.controls with latches := latches }, io := io } ∧
        io.outputs = b.io.outputs := by
  have hrequest (c : Board S) (p : Processor) :
      ∃ latches, (c.requestInterrupt p).2 =
        { c with controls := { c.controls with latches := latches } } := ⟨_, rfl⟩
  obtain ⟨_, hmain⟩ := hrequest b .main
  obtain ⟨_, hfirst, houtputs⟩ := (b.requestInterrupt .main).2.pulseChip_changes 0
  obtain ⟨_, hsecond, houtputs'⟩ := ((b.requestInterrupt .main).2.pulseChip 0).2.pulseChip_changes 1
  obtain ⟨_, hsub⟩ := hrequest (((b.requestInterrupt .main).2.pulseChip 0).2.pulseChip 1).2 .sub
  obtain ⟨_, hsound⟩ :=
    hrequest ((((b.requestInterrupt .main).2.pulseChip 0).2.pulseChip 1).2.requestInterrupt .sub).2 .sound
  unfold vblank
  rw [hsound, hsub, hsecond, hfirst, hmain]
  rw [hfirst, hmain] at houtputs'
  rw [hmain] at houtputs
  exact ⟨_, _, rfl, houtputs'.trans houtputs⟩

/-- The board with one reset by the watchdog of a processor more counted and reported. -/
def countReset (b : Board S) (p : Processor) : Board S :=
  let b :=
    { b with
      diagnostics := { b.diagnostics with watchdogResets := b.diagnostics.watchdogResets + 1 } }
  b.note (.watchdogExpired p b.mainWatchdog.period)

theorem tickWatchdogs_eq (b : Board S) :
    b.tickWatchdogs =
      match b.expired with
      | none => (none, b.ticked)
      | some p => (some p, (b.ticked.countReset p).machineReset) := by
  unfold tickWatchdogs expired ticked
  -- the outcome depends on both ticks and on whether sound is held, and on nothing else
  cases hm : b.mainWatchdog.tick with
  | mk mainExpired mainWatchdog =>
    cases hh : b.isHeld .sound with
    | true => cases mainExpired <;> rfl
    | false =>
      cases hs : b.soundWatchdog.tick with
      | mk soundExpired soundWatchdog => cases mainExpired <;> cases soundExpired <;> rfl

theorem frameSync_snd (b : Board S) : b.frameSync.2 = b.vblank.tickWatchdogs.2 := rfl

omit [SoundChip S] in
/-- Requesting interrupts touches neither a watchdog nor the reset line. -/
theorem expired_vblank (b : Board S) : b.vblank.expired = b.expired := rfl

theorem frameSync_watchdogReset (b : Board S) : b.frameSync.1.watchdogReset = b.expired := by
  show b.vblank.tickWatchdogs.1 = b.expired
  rw [tickWatchdogs_eq, expired_vblank]
  cases b.expired with
  | none => rfl
  | some p => rfl

/-- The end of a frame: the watchdogs tick, and the machine is reset if one of them expires. -/
theorem frameSync_eq (b : Board S) :
    b.frameSync.2 =
      match b.expired with
      | none => b.vblank.ticked
      | some p => (b.vblank.ticked.countReset p).machineReset := by
  rw [frameSync_snd, tickWatchdogs_eq, expired_vblank]
  cases b.expired with
  | none => rfl
  | some p => rfl

/-! ## Accesses -/

omit [SoundChip S] in
/-- Servicing a watchdog touches the watchdogs alone. -/
theorem serviceWatchdog_changes (b : Board S) (p : Processor) :
    ∃ main sound, b.serviceWatchdog p = { b with mainWatchdog := main, soundWatchdog := sound } := by
  cases p <;> exact ⟨_, _, rfl⟩

omit [SoundChip S] in
theorem read_snd (b : Board S) (p : Processor) (a : UInt16) :
    ∃ j, (b.read p a).2 =
      match AddressMap.decode p a .read with
      | .ram _ | .rom _ | .io _ _ => { b with journal := j }
      | .watchdog => { b.serviceWatchdog p with journal := j }
      | .control _ | .unmapped =>
        { b with
          diagnostics := { b.diagnostics with unmappedReads := b.diagnostics.unmappedReads + 1 }
          journal := j } := by
  unfold read
  cases AddressMap.decode p a .read <;> exact ⟨_, rfl⟩

omit [SoundChip S] in
/-- A read touches at most the watchdogs and the counts. -/
theorem read_changes (b : Board S) (p : Processor) (a : UInt16) :
    ∃ main sound counts j, (b.read p a).2 =
      { b with mainWatchdog := main, soundWatchdog := sound, diagnostics := counts, journal := j } := by
  obtain ⟨j, hj⟩ := b.read_snd p a
  rw [hj]
  cases AddressMap.decode p a .read with
  | ram _ | rom _ | io _ _ | control _ | unmapped => exact ⟨_, _, _, _, rfl⟩
  | watchdog =>
    obtain ⟨main, sound, hserviced⟩ := b.serviceWatchdog_changes p
    exact ⟨main, sound, b.diagnostics, j, by rw [hserviced]⟩

theorem control_eq (b : Board S) (p : Processor) (s : Switch) (data : UInt8) :
    ∃ j, b.control p s data =
      match s with
      | .interrupt q on => { b with controls := b.controls.switchInterrupt q on, journal := j }
      | .secondaries release => b.holdSecondaries (!release)
      | .ioChips release =>
        { b with
          controls := (b.controls.holdChips (!release)).2
          io := (b.io.setReset (!release)).1
          journal := j }
      | .starfield register =>
        { b with starfield := b.starfield.set register.val data register.isLt } := by
  cases s with
  | interrupt q on => exact b.switchInterrupt_eq q on
  | secondaries release => exact ⟨b.journal, rfl⟩
  | ioChips release => exact b.holdChips_eq p (!release)
  | starfield register => exact ⟨b.journal, rfl⟩

/-- A write to a control register leaves the memories, the programs, the watchdog of main and the counts alone.
Of the chips it moves the reset pins at most. -/
theorem control_changes (b : Board S) (p : Processor) (s : Switch) (data : UInt8) :
    ∃ controls io watchdog starfield sound due j,
      b.control p s data =
          { b with
            controls := controls
            io := io
            soundWatchdog := watchdog
            starfield := starfield
            sound := sound
            pendingReset := due
            journal := j } ∧
        (io = b.io ∨ ∃ asserted, io = (b.io.setReset asserted).1) := by
  obtain ⟨j, hj⟩ := b.control_eq p s data
  rw [hj]
  cases s with
  | interrupt _ _ | starfield _ => exact ⟨_, _, _, _, _, _, _, rfl, .inl rfl⟩
  | secondaries release =>
    dsimp only
    rw [holdSecondaries_eq]
    exact ⟨_, _, _, _, _, _, _, rfl, .inl rfl⟩
  | ioChips release => exact ⟨_, _, _, _, _, _, _, rfl, .inr ⟨!release, rfl⟩⟩

theorem write_eq (b : Board S) (p : Processor) (a : UInt16) (data : UInt8) :
    ∃ j, b.write p a data =
      match AddressMap.decode p a .write with
      | .ram cell =>
        { b with memory := b.memory.write cell data, sound := hear b.sound cell data }
      | .rom _ =>
        { b with
          diagnostics := { b.diagnostics with romWrites := b.diagnostics.romWrites + 1 }
          journal := j }
      | .io slot register => { b with io := (b.io.write slot register data).1, journal := j }
      | .watchdog => b.serviceWatchdog p
      | .control s => b.control p s data
      | .unmapped =>
        { b with
          diagnostics := { b.diagnostics with unmappedWrites := b.diagnostics.unmappedWrites + 1 }
          journal := j } := by
  unfold write
  cases AddressMap.decode p a .write with
  | ram cell => exact ⟨b.journal, soundWrite_eq _ cell data⟩
  | rom offset => exact ⟨_, rfl⟩
  | io slot register => exact ⟨_, rfl⟩
  | watchdog => exact ⟨b.journal, rfl⟩
  | control s => exact ⟨b.journal, rfl⟩
  | unmapped => exact ⟨_, rfl⟩

end Chip

/-! ## Switching on -/

end Board

/-- A chip of a layout, wired for its job and just switched on. -/
def IoSlot.stock (lamps : Bool) (spec : ChipSpec) : IoSlot :=
  { spec := spec
    chip := .powerOn spec.part.label (spec.kind.wiring lamps).reads (spec.kind.wiring lamps).writes }

/-- The wiring of every job binds all four read ports. -/
theorem IoSlot.build_wiring (lamps : Bool) (spec : ChipSpec) :
    IoSlot.build spec (spec.kind.wiring lamps) = .ok (IoSlot.stock lamps spec) := by
  obtain ⟨kind, part⟩ := spec
  cases kind <;> rfl

/-- The chips of a layout, just switched on. -/
def IoBank.stock (layout : IoLayout) (inputs : Inputs) : IoBank :=
  { slots := layout.slots.map (IoSlot.stock layout.lamps)
    inputs := inputs
    outputs := .idle
    events := #[] }

theorem IoBank.ofLayout_eq (layout : IoLayout) (inputs : Inputs) :
    IoBank.ofLayout layout inputs = .ok (IoBank.stock layout inputs) := by
  unfold IoBank.ofLayout
  simp only [IoSlot.build_wiring]
  rfl

namespace IoBank

/-- Putting a chip into a slot leaves the outputs and the queue alone. -/
theorem configure_outputs {b b' : IoBank} {slot : Nat} {spec : ChipSpec} {wiring : Wiring}
    (h : b.configure slot spec wiring = .ok b') : b'.outputs = b.outputs ∧ b'.events = b.events := by
  unfold configure at h
  split at h
  · cases hs : IoSlot.build spec wiring with
    | error problem => rw [hs] at h; cases h
    | ok s =>
      rw [hs] at h
      cases h
      exact ⟨rfl, rfl⟩
  · cases h

end IoBank

namespace Board

/-- A board that has just been switched on. -/
def stock (layout : IoLayout) (inputs : Inputs) (frames : UInt32) (sound : S) : Board S :=
  { memory := .blank
    roms := .empty
    loaded := .replicate false
    controls := .powerOn
    io := .stock layout inputs
    mainWatchdog := .ofPeriod frames
    soundWatchdog := .ofPeriod frames
    starfield := Vector.replicate _ 0
    sound := sound
    pendingReset := .replicate true
    pcs := .replicate 0
    diagnostics := .zero
    journal := .silent }

/-- **Switching on never fails**, whatever the layout. -/
theorem powerOn_eq (layout : IoLayout) (inputs : Inputs) (frames : UInt32) (sound : S) :
    powerOn layout inputs frames sound = .ok (stock layout inputs frames sound) := by
  unfold powerOn
  rw [IoBank.ofLayout_eq]
  rfl

/-! ## What success means -/

theorem configureSlot_eq_ok {b b' : Board S} {slot : Nat} {spec : ChipSpec} {wiring : Wiring}
    (h : b.configureSlot slot spec wiring = .ok b') :
    ∃ io j, b.io.configure slot spec wiring = .ok io ∧
      b' = { b with io := (io.setReset b.controls.chipsHeld).1, journal := j } := by
  unfold configureSlot at h
  cases hio : b.io.configure slot spec wiring with
  | error problem => rw [hio] at h; cases h
  | ok io =>
    rw [hio] at h
    cases h
    exact ⟨io, _, rfl, rfl⟩

theorem loadRom_eq_ok {b b' : Board S} {p : Processor} {image : List UInt8}
    (h : b.loadRom p image = .ok b') :
    ∃ roms, b' = { b with roms := roms, loaded := b.loaded.set p true } := by
  unfold loadRom at h
  split at h
  · cases h
    exact ⟨_, rfl⟩
  · cases h

theorem ofImages_images (m : SharedRam) : SharedRam.ofImages m.images = .ok m := by
  -- an image is refused for its tag or its length, and these images have both right
  have hfit : ∀ r, MemoryImage.fit ⟨r, m.bytes r⟩ r = .ok (m.region r) := by
    intro r
    unfold MemoryImage.fit
    rw [dif_pos ⟨rfl, m.length_bytes r⟩]
    rfl
  unfold SharedRam.ofImages SharedRam.images
  simp only [hfit]
  rfl

/-- **The state of a board always fits**: restoring it puts every saved part into place. -/
theorem restore_state {T : Type} [SoundChip S] (b : Board S) (c : Board T) :
    b.restore c.state =
      .ok
        { b with
          memory := c.memory
          controls := c.controls
          io := b.io.restore c.io.chipStates c.io.inputs c.io.outputs
          mainWatchdog := c.mainWatchdog
          soundWatchdog := c.soundWatchdog
          starfield := c.starfield
          pendingReset := c.pendingReset
          diagnostics := c.diagnostics
          sound := SoundChip.setEnabled b.sound c.controls.soundOn } := by
  unfold restore
  rw [show c.state.memory = c.memory.images from rfl, ofImages_images]
  rfl

/-- The state of a board is the whole of what restoring it puts into place. -/
theorem state_of_restore {T : Type} [SoundChip S] {b b' : Board S} {c : Board T}
    (h : b.restore c.state = .ok b') : b'.state = c.state := by
  rw [restore_state] at h
  cases h
  rfl

end Board

end Arcade
