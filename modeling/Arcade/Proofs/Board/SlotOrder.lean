import Arcade.Proofs.Board.Operation
import Arcade.Proofs.Memory.Decode

/-!
# `Arcade.Proofs.Board.SlotOrder` — neither slot is special

What a chip does depends on its job and its wiring, and not on the slot it sits in. Exchange the two
chips of a board, and let main exchange their addresses too: whatever is done then, every answer is the
same, and so is the board, except that what belongs to one slot is found in the other.

Crossing the slots commutes with every operation (`perform_crossed`), hence with every history
(`after_crossed`). Journals are left out: both chips report that they are reset, in the order of the slots.

## Contents
- `crossSlot`, `AddressMap.crossSlots`, `decode_crossSlots`: where a crossed address leads.
- `IoBank.crossed`, `Board.crossed`, `Operation.crossed`, `Answer.crossed`.
- Crossing and the steps of the chips and of the board.
- `perform_crossed`, `after_crossed`, and `slot_order_agnostic`.
-/

namespace Arcade

/-! ## Addresses -/

/-- The slot in which the chip of a slot is found once the two chips have been exchanged. Slots that are
not fitted stay where they are. -/
def crossSlot (slot : Nat) : Nat := if slot < 2 then 1 - slot else slot

theorem crossSlot_lt (slot : Fin 4) : crossSlot slot.val < 4 := by
  have hslot := slot.isLt
  unfold crossSlot
  split <;> omega

/-- The target of an access once the two chips have been exchanged. -/
def Target.crossed {p : Processor} : Target p → Target p
  | .io slot register => .io ⟨crossSlot slot.val, crossSlot_lt slot⟩ register
  | target => target

namespace AddressMap

/-- The address at which a processor finds what was at an address before the two chips were exchanged:
main has `A4` of the chips' addresses flipped, if `A5` is low. -/
def crossSlots (p : Processor) (a : UInt16) : UInt16 :=
  if p = .main ∧ 0x6800 ≤ a ∧ a ≤ 0x6FFF ∧ lineHigh a 5 = false then a ^^^ 0x10 else a

/-- Flipping `A4` changes which half of a block of 32 addresses is meant, and nothing else. -/
theorem toNat_flip (a : UInt16) :
    (a ^^^ 0x10).toNat / 32 = a.toNat / 32 ∧
      (a ^^^ 0x10).toNat / 16 % 2 = 1 - a.toNat / 16 % 2 ∧ (a ^^^ 0x10).toNat % 16 = a.toNat % 16 := by
  have hhalf : ∀ r < 32, (r ^^^ 16) / 16 = 1 - r / 16 ∧ (r ^^^ 16) % 16 = r % 16 := by decide
  have hblock : (a.toNat ^^^ 16) / 32 = a.toNat / 32 := by
    rw [show (32 : Nat) = 2 ^ 5 from rfl, Nat.xor_div_two_pow]
    exact Nat.xor_zero _
  have hplace : (a.toNat ^^^ 16) % 32 = a.toNat % 32 ^^^ 16 := by
    rw [show (32 : Nat) = 2 ^ 5 from rfl, Nat.xor_mod_two_pow]
  have hsplit := hhalf (a.toNat % 32) (Nat.mod_lt _ (by decide))
  rw [← hplace] at hsplit
  rw [UInt16.toNat_xor]
  show (a.toNat ^^^ 16) / 32 = _ ∧ (a.toNat ^^^ 16) / 16 % 2 = _ ∧ (a.toNat ^^^ 16) % 16 = _
  omega

theorem lineHigh_five_eq_false_iff {a : UInt16} : lineHigh a 5 = false ↔ a.toNat / 32 % 2 = 0 := by
  unfold lineHigh
  rw [Nat.testBit_eq_decide_div_mod_eq, decide_eq_false_iff_not]
  omega

theorem slotOf_flip {a : UInt16} (h : lineHigh a 5 = false) :
    slotOf (a ^^^ 0x10) = ⟨crossSlot (slotOf a).val, crossSlot_lt (slotOf a)⟩ := by
  obtain ⟨hblock, hhalf, -⟩ := toNat_flip a
  have hline := lineHigh_five_eq_false_iff.mp h
  refine Fin.ext ?_
  show (a ^^^ 0x10).toNat / 16 % 4 = crossSlot (a.toNat / 16 % 4)
  unfold crossSlot
  split <;> omega

/-- With `A5` high an address selects a slot that is not fitted. -/
theorem crossSlot_slotOf {a : UInt16} (h : lineHigh a 5 ≠ false) :
    crossSlot (slotOf a).val = (slotOf a).val := by
  have hline := mt lineHigh_five_eq_false_iff.mpr h
  show crossSlot (a.toNat / 16 % 4) = a.toNat / 16 % 4
  unfold crossSlot
  split <;> omega

/-- **A crossed address leads where the address led before**, but to the other chip. -/
theorem decode_crossSlots (p : Processor) (a : UInt16) (access : Access) :
    decode p (crossSlots p a) access = (decode p a access).crossed := by
  unfold crossSlots
  by_cases hwindow : p = .main ∧ 0x6800 ≤ a ∧ a ≤ 0x6FFF ∧ lineHigh a 5 = false
  · rw [if_pos hwindow]
    obtain ⟨rfl, hfirst, hlast, hline⟩ := hwindow
    obtain ⟨hblock, -, hregister⟩ := toNat_flip a
    have hlow : 0x6800 ≤ a.toNat := UInt16.le_iff_toNat_le.mp hfirst
    have hhigh : a.toNat ≤ 0x6FFF := UInt16.le_iff_toNat_le.mp hlast
    have hlow' : 0x6800 ≤ (a ^^^ 0x10).toNat := by omega
    have hhigh' : (a ^^^ 0x10).toNat ≤ 0x6FFF := by omega
    have hio : decode .main a access = .io (slotOf a) (registerOf a) :=
      decode_io_iff.mpr ⟨rfl, hfirst, hlast, rfl, rfl⟩
    rw [hio]
    exact decode_io_iff.mpr ⟨rfl, UInt16.le_iff_toNat_le.mpr hlow', UInt16.le_iff_toNat_le.mpr hhigh',
      slotOf_flip hline, Fin.ext hregister⟩
  · rw [if_neg hwindow]
    cases hd : decode p a access with
    | io slot register =>
      obtain ⟨hp, hfirst, hlast, rfl, -⟩ := decode_io_iff.mp hd
      have hsame := crossSlot_slotOf fun hline => hwindow ⟨hp, hfirst, hlast, hline⟩
      exact congrArg (Target.io · register) (Fin.ext hsame.symm)
    | ram _ | rom _ | watchdog | control _ | unmapped => rfl

end AddressMap

/-! ## Chips -/

namespace IoBank

/-- The bank with its two chips exchanged. Inputs, outputs and queued events belong to neither slot. -/
def crossed (b : IoBank) : IoBank := { b with slots := b.slots.swap }

theorem slot?_crossed (b : IoBank) (slot : Nat) : b.crossed.slot? (crossSlot slot) = b.slot? slot := by
  match slot with
  | 0 => rfl
  | 1 => rfl
  | n + 2 =>
    have hsame : crossSlot (n + 2) = n + 2 := if_neg (by omega)
    rw [hsame]
    rfl

theorem read_crossed (b : IoBank) (slot register : Nat) :
    (b.crossed.read (crossSlot slot) register).1 = (b.read slot register).1 := by
  unfold read
  rw [slot?_crossed]
  cases b.slot? slot with
  | none => rfl
  | some s => rfl

theorem write_crossed (b : IoBank) (slot register : Nat) (data : UInt8) :
    (b.crossed.write (crossSlot slot) register data).1 = (b.write slot register data).1.crossed := by
  unfold write
  rw [slot?_crossed]
  cases b.slot? slot with
  | none => rfl
  | some s =>
    -- what is driven depends on the chip alone, and the outputs are the same for both
    dsimp only
    cases s.chip.sink (register % 2) data with
    | mk latch notices =>
      cases latch with
      | none => rfl
      | some latch => rfl

/-- Putting a chip into a slot fails for the same reason, or fills the other slot. -/
theorem configure_crossed (b : IoBank) (slot : Nat) (spec : ChipSpec) (wiring : Wiring) :
    b.crossed.configure (crossSlot slot) spec wiring = (b.configure slot spec wiring).map crossed := by
  unfold configure
  match slot with
  | 0 | 1 =>
    cases IoSlot.build spec wiring with
    | error problem => rfl
    | ok s => rfl
  | n + 2 =>
    have hsame : crossSlot (n + 2) = n + 2 := if_neg (by omega)
    rw [hsame]
    rfl

end IoBank

namespace Board

variable {S : Type}

/-- The board with its two chips exchanged, and some journal. -/
def crossed (b : Board S) (journal : Journal) : Board S :=
  { b with io := b.io.crossed, journal := journal }

/-- A read of a crossed address gives what the read gave. -/
theorem read_crossed (b : Board S) (j : Journal) (p : Processor) (a : UInt16) :
    ∃ k, (b.crossed j).read p (AddressMap.crossSlots p a) =
      ((b.read p a).1, (b.read p a).2.crossed k) := by
  have hdecode := AddressMap.decode_crossSlots p a .read
  obtain ⟨k, hk⟩ := (b.crossed j).read_snd p (AddressMap.crossSlots p a)
  obtain ⟨i, hi⟩ := b.read_snd p a
  refine ⟨k, Prod.ext ?_ ?_⟩
  · unfold read
    rw [hdecode]
    cases AddressMap.decode p a .read with
    | io slot register => exact b.io.read_crossed slot.val register.val
    | ram _ | rom _ | watchdog | control _ | unmapped => rfl
  · show ((b.crossed j).read p (AddressMap.crossSlots p a)).2 = (b.read p a).2.crossed k
    rw [hk, hi, hdecode]
    cases AddressMap.decode p a .read with
    | watchdog => cases p <;> rfl
    | ram _ | rom _ | io _ _ | control _ | unmapped => rfl

section Chip

variable [SoundChip S]

theorem control_crossed (b : Board S) (j : Journal) (p : Processor) (s : Switch) (data : UInt8) :
    ∃ k, (b.crossed j).control p s data = (b.control p s data).crossed k := by
  obtain ⟨k, hk⟩ := (b.crossed j).control_eq p s data
  obtain ⟨i, hi⟩ := b.control_eq p s data
  cases s with
  | secondaries release =>
    refine ⟨j, ?_⟩
    show (b.crossed j).holdSecondaries (!release) = (b.holdSecondaries (!release)).crossed j
    rw [holdSecondaries_eq, holdSecondaries_eq]
    rfl
  | starfield register => exact ⟨j, rfl⟩
  | interrupt _ _ | ioChips _ =>
    refine ⟨k, ?_⟩
    rw [hk, hi]
    rfl

theorem write_crossed (b : Board S) (j : Journal) (p : Processor) (a : UInt16) (data : UInt8) :
    ∃ k, (b.crossed j).write p (AddressMap.crossSlots p a) data = (b.write p a data).crossed k := by
  obtain ⟨k, hk⟩ := (b.crossed j).write_eq p (AddressMap.crossSlots p a) data
  obtain ⟨i, hi⟩ := b.write_eq p a data
  rw [hk, hi, AddressMap.decode_crossSlots p a .write]
  cases AddressMap.decode p a .write with
  | io slot register =>
    refine ⟨k, ?_⟩
    show { b with io := (b.io.crossed.write (crossSlot slot.val) register.val data).1, journal := k } = _
    rw [IoBank.write_crossed]
    rfl
  | control s => exact b.control_crossed j p s data
  | watchdog => exact ⟨j, by cases p <;> rfl⟩
  | ram _ => exact ⟨j, rfl⟩
  | rom _ | unmapped => exact ⟨k, rfl⟩

theorem machineReset_crossed (b : Board S) (j : Journal) :
    ∃ k, (b.crossed j).machineReset = b.machineReset.crossed k := by
  obtain ⟨k, hk⟩ := (b.crossed j).machineReset_eq
  obtain ⟨i, hi⟩ := b.machineReset_eq
  rw [hk, hi]
  exact ⟨k, rfl⟩

omit [SoundChip S] in
/-- The chips take their interrupts independently of each other. -/
theorem vblank_crossed (b : Board S) (j : Journal) : (b.crossed j).vblank = b.vblank.crossed j := rfl

theorem tickWatchdogs_crossed (b : Board S) (j : Journal) :
    ∃ k, (b.crossed j).tickWatchdogs = (b.tickWatchdogs.1, b.tickWatchdogs.2.crossed k) := by
  rw [tickWatchdogs_eq, tickWatchdogs_eq, show (b.crossed j).expired = b.expired from rfl]
  cases b.expired with
  | none => exact ⟨j, rfl⟩
  | some p =>
    obtain ⟨k, hk⟩ :=
      (b.ticked.countReset p).machineReset_crossed ((b.crossed j).ticked.countReset p).journal
    exact ⟨k, congrArg (Prod.mk (some p)) hk⟩

theorem frameSync_crossed (b : Board S) (j : Journal) :
    ∃ k, (b.crossed j).frameSync =
      ({ b.frameSync.1 with chipPulses := b.frameSync.1.chipPulses.swap }, b.frameSync.2.crossed k) := by
  obtain ⟨k, hk⟩ := b.vblank.tickWatchdogs_crossed j
  have hirqs : (b.crossed j).frameSync.1.irqs = b.frameSync.1.irqs := rfl
  have hpulses : (b.crossed j).frameSync.1.chipPulses = b.frameSync.1.chipPulses.swap := rfl
  have hreset : (b.crossed j).frameSync.1.watchdogReset = b.frameSync.1.watchdogReset := by
    rw [frameSync_watchdogReset, frameSync_watchdogReset]
    rfl
  have hboard : (b.crossed j).frameSync.2 = b.frameSync.2.crossed k := by
    rw [frameSync_snd, frameSync_snd, vblank_crossed, hk]
  refine ⟨k, Prod.ext ?_ hboard⟩
  show FrameSync.mk (b.crossed j).frameSync.1.irqs (b.crossed j).frameSync.1.chipPulses
    (b.crossed j).frameSync.1.watchdogReset = _
  rw [hirqs, hpulses, hreset]

/-! ## Any operation -/

end Chip

end Board

/-- An operation on the board with its chips exchanged: main accesses the other chip where it accessed one,
and a chip goes into the other slot. -/
def Operation.crossed : Operation → Operation
  | .read p a => .read p (AddressMap.crossSlots p a)
  | .write p a data => .write p (AddressMap.crossSlots p a) data
  | .configureSlot slot spec wiring => .configureSlot (crossSlot slot) spec wiring
  | op => op

/-- An answer of the board with its chips exchanged: the report of a frame tells of the other slot. -/
def Answer.crossed : Answer → Answer
  | .sync report => .sync { report with chipPulses := report.chipPulses.swap }
  | answer => answer

namespace Board

variable {S : Type} [SoundChip S]

theorem configureSlot_crossed (b : Board S) (j : Journal) (slot : Nat) (spec : ChipSpec) (wiring : Wiring) :
    ∃ k, (b.crossed j).perform (.configureSlot (crossSlot slot) spec wiring) =
      ((b.perform (.configureSlot slot spec wiring)).1.crossed,
        (b.perform (.configureSlot slot spec wiring)).2.crossed k) := by
  have hio : (b.crossed j).io.configure (crossSlot slot) spec wiring = _ :=
    b.io.configure_crossed slot spec wiring
  simp only [perform, configureSlot, hio]
  cases b.io.configure slot spec wiring with
  | error problem => exact ⟨j, rfl⟩
  | ok io => exact ⟨_, rfl⟩

/-- **One operation on a board with its chips exchanged.** -/
theorem perform_crossed (b : Board S) (j : Journal) (op : Operation) :
    ∃ k, (b.crossed j).perform op.crossed = ((b.perform op).1.crossed, (b.perform op).2.crossed k) := by
  cases op with
  | read p a =>
    obtain ⟨k, hk⟩ := b.read_crossed j p a
    refine ⟨k, ?_⟩
    show (Answer.byte ((b.crossed j).read p (AddressMap.crossSlots p a)).1,
      ((b.crossed j).read p (AddressMap.crossSlots p a)).2) = _
    rw [hk]
    rfl
  | write p a data =>
    obtain ⟨k, hk⟩ := b.write_crossed j p a data
    exact ⟨k, congrArg (Prod.mk Answer.done) hk⟩
  | frameSync =>
    obtain ⟨k, hk⟩ := b.frameSync_crossed j
    refine ⟨k, ?_⟩
    show (Answer.sync (b.crossed j).frameSync.1, (b.crossed j).frameSync.2) = _
    rw [hk]
    rfl
  | machineReset =>
    obtain ⟨k, hk⟩ := b.machineReset_crossed j
    exact ⟨k, congrArg (Prod.mk Answer.done) hk⟩
  | configureSlot slot spec wiring => exact b.configureSlot_crossed j slot spec wiring
  | loadRom p image =>
    refine ⟨j, ?_⟩
    simp only [Operation.crossed, perform, loadRom]
    by_cases hlen : image.length = p.romSize
    · rw [dif_pos hlen, dif_pos hlen]
      rfl
    · rw [dif_neg hlen, dif_neg hlen]
      rfl
  | beginFrame | takeReset _ | notePc _ _ | setInput _ _ | press _ _ | takeEvents | unloadRom _
    | snapshot _ => exact ⟨j, rfl⟩

/-- **A whole history on a board with its chips exchanged.** -/
theorem after_crossed (b : Board S) (j : Journal) (ops : List Operation) :
    (b.crossed j).answers (ops.map Operation.crossed) = (b.answers ops).map Answer.crossed ∧
      ∃ k, (b.crossed j).after (ops.map Operation.crossed) = (b.after ops).crossed k := by
  induction ops generalizing b j with
  | nil => exact ⟨rfl, j, rfl⟩
  | cons op ops ih =>
    obtain ⟨k, hk⟩ := b.perform_crossed j op
    obtain ⟨hanswers, hafter⟩ := ih (b.perform op).2 k
    simp only [List.map_cons, answers, after, hk]
    exact ⟨congrArg _ hanswers, hafter⟩

/-- **Neither slot is special.** Take two boards that were switched on with the same two chips in opposite
order, and otherwise alike, and do anything to the first. If the same is done to the second, with main
using the crossed addresses, then

- every answer is the same, except that the report of a frame tells of the slots in opposite order;
- so is the whole board in the end, with the chips exchanged, and some journal;
- so is the saved state, with the states of the chips exchanged, and so are the queued events. -/
theorem slot_order_agnostic {A B : ChipSpec} {lamps : Bool} {inputs : Inputs} {frames : UInt32} {sound : S}
    {b c : Board S} (hb : powerOn ⟨⟨A, B⟩, lamps⟩ inputs frames sound = .ok b)
    (hc : powerOn ⟨⟨B, A⟩, lamps⟩ inputs frames sound = .ok c) (ops : List Operation) :
    c.answers (ops.map Operation.crossed) = (b.answers ops).map Answer.crossed ∧
      (∃ journal, c.after (ops.map Operation.crossed) = (b.after ops).crossed journal) ∧
      (c.after (ops.map Operation.crossed)).state =
        { (b.after ops).state with chips := (b.after ops).state.chips.swap } ∧
      (c.after (ops.map Operation.crossed)).io.events = (b.after ops).io.events := by
  rw [powerOn_eq] at hb hc
  cases hb
  cases hc
  have hcross : stock ⟨⟨B, A⟩, lamps⟩ inputs frames sound =
      (stock ⟨⟨A, B⟩, lamps⟩ inputs frames sound).crossed .silent := rfl
  obtain ⟨hanswers, journal, hafter⟩ :=
    (stock ⟨⟨A, B⟩, lamps⟩ inputs frames sound).after_crossed .silent ops
  rw [hcross, hafter]
  exact ⟨hanswers, ⟨journal, rfl⟩, rfl, rfl⟩

/-- The players' chip sits in the first slot of one board and in the second of the other. Main releases the
chips, lights a lamp and reads both chips; a fresh chip is put into a slot, and a frame ends with both
chips interrupted. -/
theorem slot_order_agnostic_lamp :
    let players : ChipSpec := ⟨.playerCoin, .part56⟩
    let switches : ChipSpec := ⟨.dipSwitch, .part58⟩
    let ops : List Operation :=
      [.write .main 0x9000 0, .write .main 0x6800 9, .read .main 0x6801, .read .main 0x6811, .frameSync,
        .configureSlot 0 switches (ChipKind.wiring .dipSwitch true), .frameSync, .takeEvents]
    ∃ b c, powerOn ⟨⟨players, switches⟩, true⟩ (.atRest 0xFF 0xF8) 8 SoundRegisters.silent = .ok b ∧
      powerOn ⟨⟨switches, players⟩, true⟩ (.atRest 0xFF 0xF8) 8 SoundRegisters.silent = .ok c ∧
      c.answers (ops.map Operation.crossed) = (b.answers ops).map Answer.crossed ∧
      (b.answers ops).getLast? = some (.events [.lamp 0 true]) ∧
      (c.after (ops.map Operation.crossed)).state.chips = (b.after ops).state.chips.swap ∧
      (b.after ops).state.chips.fst ≠ (b.after ops).state.chips.snd := by
  intro players switches ops
  have hb := powerOn_eq ⟨⟨players, switches⟩, true⟩ (.atRest 0xFF 0xF8) 8 SoundRegisters.silent
  have hc := powerOn_eq ⟨⟨switches, players⟩, true⟩ (.atRest 0xFF 0xF8) 8 SoundRegisters.silent
  obtain ⟨hanswers, -, hstate, -⟩ := slot_order_agnostic hb hc ops
  refine ⟨_, _, hb, hc, hanswers, ?_, ?_, ?_⟩
  · decide +kernel
  · rw [hstate]
  · decide +kernel

end Board

end Arcade
