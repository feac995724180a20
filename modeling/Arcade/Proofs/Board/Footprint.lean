import Arcade.Proofs.Board.Bounds
import Arcade.Proofs.Board.OutputWrites
import Arcade.Proofs.Board.Secondaries

/-!
# `Arcade.Proofs.Board.Footprint` — what an access changes, and that it changes nothing else

An access goes to one place of the address map, and what it makes of the state of the board can be said for
each kind of place in terms of the fields of the state: `BoardState.written` for a write, `BoardState.visited`
for a read. Each of them names the fields it sets and copies the others. That a board becomes just this, with
its programs, its wiring and its queue accounted for, is the footprint of the access.

Most places concern the processor that makes the access: its own interrupt, its own watchdog. The chips, the
reset lines and the star field are on the bus of main only.

## Contents
- `BoardState.written`, `state_write`: what a write makes of the state; `queue_loaded_write`: of the rest.
- `BoardState.visited`, `state_read`, `WriteOnly`: the same for a read.
- `read_footprint`, `write_footprint`.
-/

namespace Arcade

open AddressMap

/-! ## Writes -/

namespace BoardState

/-- A state in which the watchdog of a processor has been serviced. Sub has none. -/
def serviced (s : BoardState) : Processor → BoardState
  | .main => { s with mainWatchdog.elapsed := 0, mainWatchdog.serviced := true }
  | .sub => s
  | .sound => { s with soundWatchdog.elapsed := 0, soundWatchdog.serviced := true }

/-- A state in which sub and sound have been held or released. Only holding them when they were not held
resets them, and starts the watchdog of sound again. -/
def withSecondaries (s : BoardState) (release : Bool) : BoardState :=
  let s' := { s with controls.secondariesHeld := !release, controls.soundOn := release }
  if release || s.controls.secondariesHeld then s'
  else
    { s' with
      pendingReset := ⟨s.pendingReset.main, true, true⟩
      soundWatchdog.elapsed := 0
      soundWatchdog.serviced := false }

/-- A state in which the chips have been held or released. Holding a chip lowers its interrupt line. -/
def withChips (s : BoardState) (release : Bool) : BoardState :=
  { s with
    controls.chipsHeld := !release
    chips := s.chips.map fun c => { c with reset := !release, irqLine := release && c.irqLine } }

/-- What a byte that a processor writes to a place makes of a state, given the latches to which the registers
of the chips lead. -/
def written (s : BoardState) (p : Processor) (data : UInt8) (latch? : Nat → Nat → Option OutputLatch) :
    Place → BoardState
  | .ram r offset => { s with memory := s.memory.setBytes ((s.memory.get r).bytes.set offset data) r }
  | .rom _ => { s with diagnostics.romWrites := s.diagnostics.romWrites + 1 }
  | .io slot register => { s with outputs := (s.outputs.offer data (latch? slot register)).1 }
  | .watchdog => s.serviced p
  | .interrupt _ on =>
    { s with controls.latches := s.controls.latches.modify p fun l => ⟨on, on && l.line⟩ }
  | .secondaries release => s.withSecondaries release
  | .ioChips release => s.withChips release
  | .starfield register => { s with starfield := s.starfield.setIfInBounds register data }
  | .unmapped => { s with diagnostics.unmappedWrites := s.diagnostics.unmappedWrites + 1 }

/-- What a byte that is written to a place tells the outside: only the chips tell anything. -/
def told (s : BoardState) (data : UInt8) (latch? : Nat → Nat → Option OutputLatch) :
    Place → List OutputEvent
  | .io slot register => (s.outputs.offer data (latch? slot register)).2
  | .ram _ _ | .rom _ | .watchdog | .interrupt _ _ | .secondaries _ | .ioChips _ | .starfield _
  | .unmapped => []

end BoardState

namespace Board

variable {S : Type}

/-- The latches to which the registers of the chips lead, as the chips are now. -/
def latch? (b : Board S) (data : UInt8) (slot register : Nat) : Option OutputLatch :=
  b.io.sink? slot register data

theorem state_serviceWatchdog (b : Board S) (p : Processor) :
    (b.serviceWatchdog p).state = b.state.serviced p := by
  cases p <;> rfl

variable [SoundChip S]

theorem state_holdSecondaries (b : Board S) (release : Bool) :
    (b.holdSecondaries !release).state = b.state.withSecondaries release := by
  rw [holdSecondaries_eq]
  unfold BoardState.withSecondaries assertsHold
  cases release with
  | true => rfl
  | false =>
    have hheld : b.state.controls.secondariesHeld = b.controls.secondariesHeld := rfl
    rw [hheld]
    cases b.controls.secondariesHeld <;> rfl

/-- **A write makes of the state what its place says.** -/
theorem state_write (b : Board S) (p : Processor) (a : UInt16) (data : UInt8) :
    (b.write p a data).state = b.state.written p data (b.latch? data) (place p .write a) := by
  obtain ⟨j, hj⟩ := b.write_eq p a data
  rw [← place_decode, hj]
  cases hd : decode p a .write with
  | ram cell =>
    obtain ⟨r, i⟩ := cell
    show { b.state with memory := (b.memory.write ⟨r, i⟩ data).images } = _
    rw [SharedRam.images_write, Vector.toList_set]
    cases r <;> rfl
  | io slot register =>
    dsimp only
    rw [IoBank.write_fst]
    rfl
  | watchdog => exact b.state_serviceWatchdog p
  | control s =>
    obtain ⟨k, hk⟩ := b.control_eq p s data
    dsimp only
    rw [hk]
    cases s with
    | interrupt q on =>
      obtain rfl : q = p := decode_interrupt hd
      rfl
    | secondaries release => exact b.state_holdSecondaries release
    | ioChips release => cases release <;> rfl
    | starfield register =>
      have hset : b.starfield.set register.val data register.isLt =
          b.starfield.setIfInBounds register.val data := by
        refine Vector.toList_inj.mp ?_
        rw [Vector.toList_set, Vector.toList_setIfInBounds]
      exact congrArg (fun v => { b.state with starfield := v }) hset
  | rom _ | unmapped => rfl

/-- What a write does beside the state: it may add to the queue, and loads no program. -/
theorem queue_loaded_write (b : Board S) (p : Processor) (a : UInt16) (data : UInt8) :
    (b.write p a data).io.events.toList =
        b.io.events.toList ++ b.state.told data (b.latch? data) (place p .write a) ∧
      (b.write p a data).loaded = b.loaded := by
  have hquiet : b.io.events.toList = b.io.events.toList ++ [] := (List.append_nil _).symm
  obtain ⟨j, hj⟩ := b.write_eq p a data
  rw [← place_decode, hj]
  cases decode p a .write with
  | io slot register =>
    dsimp only
    rw [IoBank.write_fst]
    exact ⟨Array.toList_appendList, rfl⟩
  | watchdog =>
    obtain ⟨main, sound, hb⟩ := b.serviceWatchdog_changes p
    dsimp only
    rw [hb]
    exact ⟨hquiet, rfl⟩
  | control s =>
    obtain ⟨_, io, _, _, _, _, _, hb, hio⟩ := b.control_changes p s data
    dsimp only
    rw [hb]
    cases s <;> rcases hio with rfl | ⟨asserted, rfl⟩ <;> exact ⟨hquiet, rfl⟩
  | ram _ | rom _ | unmapped => exact ⟨hquiet, rfl⟩

/-- A byte that is written into a memory is there. -/
theorem stored_write (b : Board S) {p : Processor} {a : UInt16} {r : Region} {offset : Nat} (data : UInt8)
    (h : place p .write a = .ram r offset) : ((b.write p a data).memory.bytes r)[offset]? = some data := by
  have hbytes : (b.write p a data).memory.bytes r = (b.memory.bytes r).set offset data := by
    have hmemory := congrArg (fun s => (s.memory.get r).bytes) (b.state_write p a data)
    rw [h] at hmemory
    cases r <;> exact hmemory
  have hbound := b.admits_contents p .write a
  rw [h] at hbound
  have hlength : offset < (b.memory.bytes r).length := by
    cases r <;> exact hbound.2
  rw [hbytes, List.getElem?_set_self hlength]

/-- A byte that is written into a star field register is there. -/
theorem stored_write_starfield (b : Board S) {p : Processor} {a : UInt16} {register : Nat} (data : UInt8)
    (h : place p .write a = .starfield register) :
    (b.write p a data).starfield.toList[register]? = some data := by
  have hstarfield := congrArg BoardState.starfield (b.state_write p a data)
  have hbound := b.admits_contents p .write a
  rw [h] at hstarfield hbound
  have hset : (b.write p a data).starfield = b.starfield.setIfInBounds register data := hstarfield
  have hlength : register < b.starfield.toList.length := by
    rw [Vector.length_toList]
    exact hbound.1
  rw [hset, Vector.toList_setIfInBounds, List.getElem?_set_self hlength]

end Board

/-! ## Reads -/

/-- Whether something can be read at a place. -/
def AddressMap.Place.isReadable : Place → Bool
  | .ram _ _ | .rom _ | .io _ _ => true
  | .watchdog | .interrupt _ _ | .secondaries _ | .ioChips _ | .starfield _ | .unmapped => false

/-- The addresses at which a processor finds something to write, and nothing to read. -/
def AddressMap.WriteOnly : Processor → UInt16 → Prop
  | .main, a => 0x7000 ≤ a.toNat ∧ a.toNat ≤ 0x77FF
  | .sub, a => 0x6000 ≤ a.toNat ∧ a.toNat ≤ 0x6FFF
  | .sound, a => 0x4000 ≤ a.toNat ∧ a.toNat ≤ 0x7FFF

theorem AddressMap.place_of_writeOnly {p : Processor} {a : UInt16} (h : WriteOnly p a) :
    place p .read a = .unmapped ∧ ∃ on, place p .write a = .interrupt p on := by
  have hread : ∀ w ∈ windows p .read, ¬ w.Contains a := by
    cases p <;> simp [WriteOnly, windows, videoWindows, upperProgramWindows, Window.Contains] at h ⊢ <;> omega
  have hwrite : ∃ w ∈ windows p .write, w.Contains a ∧ ∃ on, w.place a.toNat = .interrupt p on := by
    cases p <;> simp [WriteOnly, windows, videoWindows, upperProgramWindows, Window.Contains] at h ⊢ <;> omega
  rw [← place_decode, ← place_decode]
  constructor
  · exact place_decode_of_not_mem hread
  · obtain ⟨w, hw, ha, on, hplace⟩ := hwrite
    exact ⟨on, (place_decode_of_mem w hw ha).trans hplace⟩

namespace BoardState

/-- What a read of a place by a processor makes of a state. -/
def visited (s : BoardState) (p : Processor) : Place → BoardState
  | .ram _ _ | .rom _ | .io _ _ => s
  | .watchdog => s.serviced p
  | .interrupt _ _ | .secondaries _ | .ioChips _ | .starfield _ | .unmapped =>
    { s with diagnostics.unmappedReads := s.diagnostics.unmappedReads + 1 }

/-- Sub and sound do not touch the watchdog of main. -/
theorem mainWatchdog_serviced (s : BoardState) {p : Processor} (hp : p ≠ .main) :
    (s.serviced p).mainWatchdog = s.mainWatchdog := by
  cases p with
  | main => exact absurd rfl hp
  | sub | sound => rfl

theorem mainWatchdog_visited (s : BoardState) {p : Processor} (hp : p ≠ .main) (x : Place) :
    (s.visited p x).mainWatchdog = s.mainWatchdog := by
  cases x with
  | watchdog => exact s.mainWatchdog_serviced hp
  | ram _ _ | rom _ | io _ _ | interrupt _ _ | secondaries _ | ioChips _ | starfield _ | unmapped => rfl

theorem mainWatchdog_written (s : BoardState) {p : Processor} (hp : p ≠ .main) (data : UInt8)
    (latch? : Nat → Nat → Option OutputLatch) (x : Place) :
    (s.written p data latch? x).mainWatchdog = s.mainWatchdog := by
  cases x with
  | watchdog => exact s.mainWatchdog_serviced hp
  | secondaries release =>
    show (s.withSecondaries release).mainWatchdog = s.mainWatchdog
    unfold withSecondaries
    split <;> rfl
  | ram _ _ | rom _ | io _ _ | interrupt _ _ | ioChips _ | starfield _ | unmapped => rfl

end BoardState

namespace Board

variable {S : Type}

/-- **A read makes of the state what its place says.** -/
theorem state_read (b : Board S) (p : Processor) (a : UInt16) :
    (b.read p a).2.state = b.state.visited p (place p .read a) := by
  obtain ⟨j, hj⟩ := b.read_snd p a
  rw [← place_decode, hj]
  cases decode p a .read with
  | watchdog => exact b.state_serviceWatchdog p
  | control s => cases s <;> rfl
  | ram _ | rom _ | io _ _ | unmapped => rfl

theorem read_of_not_isReadable (b : Board S) {p : Processor} {a : UInt16}
    (h : (place p .read a).isReadable = false) : (b.read p a).1 = openBus := by
  rw [← place_decode] at h
  unfold read
  cases hd : decode p a .read with
  | watchdog | control _ | unmapped => rfl
  | ram _ | rom _ | io _ _ => rw [hd] at h; cases h

/-- What a processor reads from its program. -/
theorem read_of_rom (b : Board S) {p : Processor} {a : UInt16} {offset : Nat}
    (h : place p .read a = .rom offset) : (b.roms.get p).toList[offset]? = some (b.read p a).1 := by
  rw [← place_decode] at h
  unfold read
  cases hd : decode p a .read with
  | rom i =>
    rw [hd] at h
    obtain rfl : i.val = offset := Place.rom.inj h
    cases p <;> exact Vector.getElem?_toList.trans (Vector.getElem?_eq_getElem i.isLt)
  | control s => rw [hd] at h; cases s <;> cases h
  | ram _ | io _ _ | watchdog | unmapped => rw [hd] at h; cases h

/-- **Reading again gives the same.** Nothing that a read changes can be read. -/
theorem read_read (b : Board S) (p : Processor) (a : UInt16) :
    ((b.read p a).2.read p a).1 = (b.read p a).1 := by
  obtain ⟨main, sound, counts, j, hj⟩ := b.read_changes p a
  rw [hj]
  unfold read
  cases decode p a .read <;> rfl

/-! ## Footprints -/

/-- **The footprint of a read.** Whatever the board, a read leaves its state as it is, with two exceptions: at
its watchdog a processor services that watchdog, and where nothing can be read the read is counted
(`BoardState.visited`). The value is then `FF`. Besides

- the queue, the programs, how the chips are wired, which programs are loaded and the sound generator stay
  as they are;
- from its program a processor gets the byte of its own image at the offset in the tables;
- the same read made once more gives the same value;
- where a processor can only write (`WriteOnly`), a write is a switch of its interrupt, and nothing can be
  read. -/
theorem read_footprint (b : Board S) (p : Processor) (a : UInt16) :
    (b.read p a).2.state = b.state.visited p (place p .read a) ∧
    ((place p .read a).isReadable = false → (b.read p a).1 = 0xFF) ∧
    (b.read p a).2.io.events = b.io.events ∧
    (b.read p a).2.hardware = b.hardware ∧
    (b.read p a).2.loaded = b.loaded ∧
    (b.read p a).2.sound = b.sound ∧
    (∀ offset, place p .read a = .rom offset →
      (b.roms.get p).toList[offset]? = some (b.read p a).1) ∧
    ((b.read p a).2.read p a).1 = (b.read p a).1 ∧
    (WriteOnly p a → place p .read a = .unmapped ∧ ∃ on, place p .write a = .interrupt p on) := by
  obtain ⟨main, sound, counts, j, hj⟩ := b.read_changes p a
  refine ⟨b.state_read p a, b.read_of_not_isReadable, ?_, b.hardware_read p a, ?_, ?_, ?_, ?_, ?_⟩
  · rw [hj]
  · rw [hj]
  · rw [hj]
  · intro offset h
    exact b.read_of_rom h
  · exact b.read_read p a
  · exact place_of_writeOnly

/-- Sub's program is full of `42`, and a byte of it is read; sound services its watchdog, and main reads where it
can only switch its interrupt. -/
theorem read_footprint_each_kind :
    let layout : IoLayout := ⟨⟨⟨.playerCoin, .part56⟩, ⟨.dipSwitch, .part58⟩⟩, true⟩
    let fresh := stock layout (.atRest 0xFF 0xF8) 8 (Recorded.fitted SoundRegisters.silent)
    let b := { fresh with roms := fresh.roms.set .sub (Vector.replicate _ 0x42) }
    place .sub .read 0xF002 = .rom 0x5002 ∧ (b.roms.get .sub).toList[0x5002]? = some (b.read .sub 0xF002).1 ∧
      (place .sound .read 0x2345).isReadable = false ∧ (b.read .sound 0x2345).1 = 0xFF ∧
      (b.read .sound 0x2345).2.state = b.state.serviced .sound ∧
      WriteOnly .main 0x7123 ∧ place .main .read 0x7123 = .unmapped := by
  intro layout fresh b
  have hrom : place .sub .read 0xF002 = .rom 0x5002 := by decide +kernel
  have hwatchdog : place .sound .read 0x2345 = .watchdog := by decide +kernel
  have hreadable : (place .sound .read 0x2345).isReadable = false := by rw [hwatchdog]; rfl
  have honly : WriteOnly .main 0x7123 := by unfold WriteOnly; decide
  obtain ⟨-, -, -, -, -, -, hprogram, -, -⟩ := b.read_footprint .sub 0xF002
  obtain ⟨hstate, hvalue, -⟩ := b.read_footprint .sound 0x2345
  rw [hwatchdog] at hstate
  obtain ⟨-, -, -, -, -, -, -, -, hunmapped⟩ := b.read_footprint .main 0x7123
  exact ⟨hrom, hprogram _ hrom, hreadable, hvalue hreadable, hstate, honly, (hunmapped honly).1⟩

variable [SoundChip S]

/-- **The footprint of a write.** Whatever the board, its state becomes what the place of the address in the
tables says (`BoardState.written`, which names the fields that each kind of place sets and keeps the others),
and besides

- a byte that goes into a memory is found in its cell, and one that goes into a star field register there;
- output events are added to the queue only where the chips are written to, and those that were queued stay;
- the programs, how the chips are wired, and which programs are loaded stay as they are.

Only main reaches the reset lines, the star field and the chips, be it with reads or with writes, and only
accesses of main touch the watchdog of main. -/
theorem write_footprint (b : Board S) (p : Processor) (a : UInt16) (data : UInt8) :
    (b.write p a data).state = b.state.written p data (b.latch? data) (place p .write a) ∧
    (∀ r offset, place p .write a = .ram r offset →
      ((b.write p a data).memory.bytes r)[offset]? = some data) ∧
    (∀ register, place p .write a = .starfield register →
      (b.write p a data).starfield.toList[register]? = some data) ∧
    (b.write p a data).io.events.toList =
      b.io.events.toList ++ b.state.told data (b.latch? data) (place p .write a) ∧
    (b.write p a data).hardware = b.hardware ∧
    (b.write p a data).loaded = b.loaded ∧
    (p ≠ .main →
      (∀ access, (place p access a).isMains = false) ∧
      (b.write p a data).mainWatchdog = b.mainWatchdog ∧
      (b.read p a).2.mainWatchdog = b.mainWatchdog) := by
  have hstate := b.state_write p a data
  obtain ⟨hevents, hloaded⟩ := b.queue_loaded_write p a data
  refine ⟨hstate, ?_, ?_, hevents, b.hardware_write p a data, hloaded, ?_⟩
  · intro r offset h
    exact b.stored_write data h
  · intro register h
    exact b.stored_write_starfield data h
  · intro hp
    have hwritten := congrArg BoardState.mainWatchdog hstate
    rw [BoardState.mainWatchdog_written _ hp] at hwritten
    have hvisited := congrArg BoardState.mainWatchdog (b.state_read p a)
    rw [BoardState.mainWatchdog_visited _ hp] at hvisited
    exact ⟨fun access => isMains_place hp access a, hwritten, hvisited⟩

/-- Sub writes a byte of work memory, which main's watchdog does not notice; main writes a star field register, and
holds sub and sound, which are held already. -/
theorem write_footprint_each_kind :
    let layout : IoLayout := ⟨⟨⟨.playerCoin, .part56⟩, ⟨.dipSwitch, .part58⟩⟩, true⟩
    let b := stock layout (.atRest 0xFF 0xF8) 8 (Recorded.fitted SoundRegisters.silent)
    place .sub .write 0x1FFF = .ram .work 0x17FF ∧
      ((b.write .sub 0x1FFF 0x17).memory.bytes .work)[0x17FF]? = some 0x17 ∧
      Processor.sub ≠ .main ∧ (b.write .sub 0x1FFF 0x17).mainWatchdog = b.mainWatchdog ∧
      place .main .write 0xA7FE = .starfield 2 ∧ (b.write .main 0xA7FE 0x17).starfield.toList[2]? = some 0x17 ∧
      place .main .write 0x8800 = .secondaries false ∧ (b.write .main 0x8800 0x17).state = b.state := by
  intro layout b
  have hram : place .sub .write 0x1FFF = .ram .work 0x17FF := by decide +kernel
  have hstarfield : place .main .write 0xA7FE = .starfield 2 := by decide +kernel
  have hsecondaries : place .main .write 0x8800 = .secondaries false := by decide +kernel
  have hsub : Processor.sub ≠ .main := nofun
  obtain ⟨-, hstored, -, -, -, -, hmains⟩ := b.write_footprint .sub 0x1FFF 0x17
  obtain ⟨-, -, hregister, -⟩ := b.write_footprint .main 0xA7FE 0x17
  obtain ⟨hstate, -⟩ := b.write_footprint .main 0x8800 0x17
  rw [hsecondaries] at hstate
  exact ⟨hram, hstored _ _ hram, hsub, (hmains hsub).2.1, hstarfield, hregister _ hstarfield, hsecondaries,
    hstate⟩

end Board

end Arcade
