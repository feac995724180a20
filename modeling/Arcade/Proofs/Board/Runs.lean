import Arcade.Proofs.Board.Operation

/-!
# `Arcade.Proofs.Board.Runs` — what a running machine does to its board

While a machine runs, its board goes through accesses of the processors, resets that are taken up, and the
two ends of a frame, in some order, with reports in between. A host's operations are not among them. So
whatever these few leave alone, a frame leaves alone, and no proof about that has to follow the turns of
the frame.

## Contents
- `Operation.ofFrame`, `Board.Runs`: the boards that a running machine can make of a board.
- `runs_program`: the accesses of a step are among them.
- `Board.hardware`, `Runs.hardware_eq`: programs and wiring stay as they are.
-/

namespace Arcade

/-- Whether an operation is among those that a running machine does to its board. -/
def Operation.ofFrame : Operation → Bool
  | .read _ _ | .write _ _ _ | .beginFrame | .frameSync | .takeReset _ | .notePc _ _ => true
  | .machineReset | .setInput _ _ | .press _ _ | .takeEvents | .configureSlot _ _ _ => false
  | .loadRom _ _ | .unloadRom _ | .snapshot _ => false

namespace Board

variable {S : Type} [SoundChip S] {b c d : Board S}

/-- What a board can become while its machine runs. -/
inductive Runs (b : Board S) : Board S → Prop
  | refl : Runs b b
  | perform {c : Board S} (h : Runs b c) (op : Operation) (hop : op.ofFrame = true) :
      Runs b (c.perform op).2
  | note {c : Board S} (h : Runs b c) (n : Notice) : Runs b (c.note n)

theorem Runs.trans (h : b.Runs c) (h' : c.Runs d) : b.Runs d := by
  induction h' with
  | refl => exact h
  | perform _ op hop ih => exact ih.perform op hop
  | note _ n ih => exact ih.note n

/-- The accesses of a step. -/
theorem runs_program {α : Type} (program : BusProgram α) (p : Processor) (b : Board S) :
    b.Runs (program.run (bus p) b).2 := by
  induction program generalizing b with
  | done a => exact .refl
  | read a next ih => exact (Runs.refl.perform (.read p a) rfl).trans (ih _ _)
  | write a data next ih => exact (Runs.refl.perform (.write p a data) rfl).trans (ih _)
  | note n next ih => exact (Runs.refl.note n).trans (ih _)

end Board

/-! ## Programs and wiring -/

/-- The ports that the chips of a bank are bound to. -/
def IoBank.wiring (a : IoBank) : Pair (Vector (ReadPort InputGroup) 4 × Vector (WritePort OutputLatch) 2) :=
  a.slots.map fun s => (s.chip.reads, s.chip.writes)

namespace IoBank

theorem wiring_mapChips (a : IoBank) {f : IoChip InputGroup OutputLatch → IoChip InputGroup OutputLatch}
    (hf : ∀ c, (f c).reads = c.reads ∧ (f c).writes = c.writes) : (a.mapChips f).wiring = a.wiring := by
  obtain ⟨⟨s, t⟩, inputs, outputs, events⟩ := a
  show Pair.mk ((f s.chip).reads, (f s.chip).writes) ((f t.chip).reads, (f t.chip).writes) = _
  rw [(hf s.chip).1, (hf s.chip).2, (hf t.chip).1, (hf t.chip).2]
  rfl

theorem wiring_setReset (a : IoBank) (asserted : Bool) : (a.setReset asserted).1.wiring = a.wiring :=
  a.wiring_mapChips fun _ => ⟨rfl, rfl⟩

theorem wiring_pulse (a : IoBank) (slot : Nat) : (a.pulse slot).2.wiring = a.wiring := by
  have hchip (c : IoChip InputGroup OutputLatch) :
      (c.pulse.2.reads, c.pulse.2.writes) = (c.reads, c.writes) := by
    unfold IoChip.pulse
    split <;> rfl
  obtain ⟨⟨s, t⟩, inputs, outputs, events⟩ := a
  match slot with
  | 0 => exact congrArg (fun w => Pair.mk w (t.chip.reads, t.chip.writes)) (hchip s.chip)
  | 1 => exact congrArg (fun w => Pair.mk (s.chip.reads, s.chip.writes) w) (hchip t.chip)
  | n + 2 => rfl

theorem wiring_write (a : IoBank) (slot register : Nat) (data : UInt8) :
    (a.write slot register data).1.wiring = a.wiring := by
  unfold IoBank.write
  split
  · split <;> rfl
  · rfl

end IoBank

/-- What is plugged into a board: its programs, and the wiring of its chips. No saved state holds it. -/
structure Hardware where
  roms : ProgramRoms
  wiring : Pair (Vector (ReadPort InputGroup) 4 × Vector (WritePort OutputLatch) 2)

namespace Board

variable {S : Type}

/-- What is plugged into a board. -/
def hardware (b : Board S) : Hardware := ⟨b.roms, b.io.wiring⟩

theorem hardware_read (b : Board S) (p : Processor) (a : UInt16) :
    (b.read p a).2.hardware = b.hardware := by
  obtain ⟨main, sound, counts, j, hj⟩ := b.read_changes p a
  rw [hj]
  rfl

variable [SoundChip S]

theorem hardware_control (b : Board S) (p : Processor) (s : Switch) (data : UInt8) :
    (b.control p s data).hardware = b.hardware := by
  obtain ⟨_, io, _, _, _, _, _, hb, hio⟩ := b.control_changes p s data
  rw [hb]
  rcases hio with rfl | ⟨asserted, rfl⟩
  · rfl
  · exact congrArg (Hardware.mk b.roms) (b.io.wiring_setReset asserted)

theorem hardware_write (b : Board S) (p : Processor) (a : UInt16) (data : UInt8) :
    (b.write p a data).hardware = b.hardware := by
  obtain ⟨j, hj⟩ := b.write_eq p a data
  rw [hj]
  cases AddressMap.decode p a .write with
  | ram _ | rom _ | unmapped => rfl
  | io slot register => exact congrArg (Hardware.mk b.roms) (b.io.wiring_write slot register data)
  | watchdog =>
    obtain ⟨main, sound, hserviced⟩ := b.serviceWatchdog_changes p
    dsimp only
    rw [hserviced]
    rfl
  | control s => exact b.hardware_control p s data

theorem hardware_machineReset (b : Board S) : b.machineReset.hardware = b.hardware := by
  obtain ⟨j, hj⟩ := b.machineReset_eq
  rw [hj]
  exact congrArg (Hardware.mk b.roms) (b.io.wiring_setReset true)

theorem hardware_frameSync (b : Board S) : b.frameSync.2.hardware = b.hardware := by
  have hpulsed : b.vblank.hardware = b.hardware := by
    show Hardware.mk b.roms (((b.io.pulse 0).2.pulse 1).2).wiring = b.hardware
    rw [IoBank.wiring_pulse, IoBank.wiring_pulse]
    rfl
  rw [frameSync_eq, ← hpulsed]
  cases b.expired with
  | none => rfl
  | some p => exact hardware_machineReset _

/-- A running machine plugs nothing in or out. -/
theorem hardware_perform (b : Board S) {op : Operation} (hop : op.ofFrame = true) :
    (b.perform op).2.hardware = b.hardware := by
  cases op with
  | read p a => exact b.hardware_read p a
  | write p a data => exact b.hardware_write p a data
  | beginFrame => exact congrArg (Hardware.mk b.roms) (b.io.wiring_mapChips fun _ => ⟨rfl, rfl⟩)
  | frameSync => exact b.hardware_frameSync
  | takeReset _ | notePc _ _ => rfl
  | machineReset | setInput _ _ | press _ _ | takeEvents | configureSlot _ _ _ => cases hop
  | loadRom _ _ | unloadRom _ | snapshot _ => cases hop

/-- **Programs and wiring stay as they are while a machine runs.** -/
theorem Runs.hardware_eq {b c : Board S} (h : b.Runs c) : c.hardware = b.hardware := by
  induction h with
  | refl => rfl
  | perform _ op hop ih => rw [hardware_perform _ hop, ih]
  | note _ n ih => exact ih

end Board

end Arcade
