import Arcade.Proofs.Board.Consistency
import Arcade.Proofs.Memory.Decode

/-!
# `Arcade.Proofs.Board.SoundCalls` — everything the sound generator is told

The board says two things to its sound generator: that a byte is written to a register, and that the
output is switched. Which of the two an operation makes it say, and whether it says anything, can be read
off the operation, its answer and the reset line of sub and sound before it (`Board.soundCalls`). The
addresses are spelled out, so nothing that is said here refers to the decoder.

A register is named once for each write to it, wherever sound memory is reached. The output is named only
when the reset line changes its level, so what it is switched to alternates.

## Contents
- `SoundCall.tell`, and what a recorder makes of a list of calls.
- `SoundCall.heard`: the calls for one write to a register and one level of the reset line.
- `Operation.registerWrite?`, `Operation.holdLevel?`, and what they have to do with the decoder.
- `Board.Hears`: what an operation does to the sound generator and to the reset line; `hears_perform`.
- `Board.soundTrace` with `sound_after`, `registers_soundTrace`, `levels_soundTrace`.
- `sound_trace_exact`.
-/

namespace Arcade

/-! ## Calls -/

namespace SoundCall

/-- What a sound generator becomes when it is told something. -/
def tell {S : Type} [SoundChip S] (s : S) : SoundCall → S
  | .write register data => SoundChip.writeRegister s register data
  | .enable on => SoundChip.setEnabled s on

/-- The register and the byte, if a call is about a register. -/
def register? : SoundCall → Option (UInt8 × UInt8)
  | .write register data => some (register, data)
  | .enable _ => none

/-- What the output is switched to, if a call is about the output. -/
def level? : SoundCall → Option Bool
  | .write _ _ => none
  | .enable on => some on

/-- **What the sound generator is told** when a register is written, if one is, and the reset line of sub
and sound is put to a level, if it is: about the output it hears only if the level of the line is new. -/
def heard (held : Bool) (write : Option (UInt8 × UInt8)) (line : Option Bool) : List SoundCall :=
  (write.map fun w => .write w.1 w.2).toList ++
    match line with
    | some level => if level = held then [] else [.enable (!level)]
    | none => []

/-- While the reset line is left alone, nothing is told about the output. -/
theorem heard_none (held : Bool) (write : Option (UInt8 × UInt8)) :
    heard held write none = (write.map fun w => .write w.1 w.2).toList := List.append_nil _

/-- A write to a register is told, and nothing else is told as one. -/
theorem filterMap_register?_heard (held : Bool) (write : Option (UInt8 × UInt8)) (line : Option Bool) :
    (heard held write line).filterMap register? = write.toList := by
  unfold heard
  cases line with
  | none => cases write <;> rfl
  | some level => cases write <;> cases held <;> cases level <;> rfl

/-- About the output at most one thing is told: it is switched on if it was off, and off if it was on. -/
theorem filterMap_level?_heard (held : Bool) (write : Option (UInt8 × UInt8)) (line : Option Bool) :
    (heard held write line).filterMap level? = if line.getD held = held then [] else [held] := by
  unfold heard
  cases line with
  | none => cases write <;> cases held <;> rfl
  | some level => cases write <;> cases held <;> cases level <;> rfl

end SoundCall

/-- The calls are recorded in order, and all of them are passed on. -/
theorem Recorded.foldl_tell {S : Type} [SoundChip S] (r : Recorded S) (calls : List SoundCall) :
    calls.foldl SoundCall.tell r = ⟨calls.foldl SoundCall.tell r.chip, calls.reverse ++ r.calls⟩ := by
  induction calls generalizing r with
  | nil => rfl
  | cons call calls ih =>
    have hcall : SoundCall.tell r call = ⟨SoundCall.tell r.chip call, call :: r.calls⟩ := by
      cases call <;> rfl
    rw [List.foldl_cons, List.foldl_cons, ih, hcall, List.reverse_cons, List.append_assoc]
    rfl

/-! ## Operations -/

namespace Operation

/-- The register that an operation writes, and the byte. Registers are written by the processors that
reach sound memory, at all addresses at which its first bytes are found. -/
def registerWrite? : Operation → Option (UInt8 × UInt8)
  | .write p a data =>
    if AddressMap.soundWindow p a = true ∧ a.toNat % 0x400 < soundRegisterCount then
      some (UInt8.ofNat (a.toNat % 0x400), data)
    else none
  | _ => none

/-- The level to which an operation puts the reset line of sub and sound, given what the operation gave
back: writes of main carry it in an address line, and a reset of the machine asserts it. -/
def holdLevel? : Operation → Answer → Option Bool
  | .write p a _, _ =>
    if p = .main ∧ 0x8000 ≤ a ∧ a ≤ 0x8FFF then some (AddressMap.lineHigh a 11) else none
  | .machineReset, _ => some true
  | .frameSync, .sync report => if report.watchdogReset.isSome then some true else none
  | _, _ => none

/-- In terms of the decoder, a write to a register is one that leads to the first cells of sound memory. -/
theorem registerWrite?_write (p : Processor) (a : UInt16) (data : UInt8) :
    (Operation.write p a data).registerWrite? =
      match AddressMap.decode p a .write with
      | .ram c =>
        if c.region = .sound ∧ c.offset.val < soundRegisterCount then
          some (UInt8.ofNat c.offset.val, data)
        else none
      | _ => none := by
  by_cases hwindow : AddressMap.soundWindow p a = true
  · rw [AddressMap.decode_of_soundWindow hwindow]
    simp only [registerWrite?, AddressMap.soundCell, hwindow, true_and]
  · rw [registerWrite?, if_neg fun h => hwindow h.1]
    cases hd : AddressMap.decode p a .write with
    | ram c =>
      -- outside the window a cell is in another memory
      obtain ⟨r, i⟩ := c
      have hr : r ≠ .sound := by
        rintro rfl
        exact hwindow (AddressMap.decode_sound_iff.mp hd).1
      dsimp only
      rw [if_neg fun h => hr h.1]
    | rom _ | io _ _ | watchdog | control _ | unmapped => rfl

/-- In terms of the decoder, a write that puts the reset line to a level is one to its register. -/
theorem holdLevel?_write (p : Processor) (a : UInt16) (data : UInt8) (answer : Answer) :
    (Operation.write p a data).holdLevel? answer =
      match AddressMap.decode p a .write with
      | .control (.secondaries release) => some (!release)
      | _ => none := by
  by_cases haddress : p = .main ∧ 0x8000 ≤ a ∧ a ≤ 0x8FFF
  · have hd := AddressMap.decode_secondaries_iff.mpr
      ⟨haddress.1, haddress.2.1, haddress.2.2, rfl⟩
    rw [holdLevel?, if_pos haddress, hd, AddressMap.releases]
    dsimp only
    rw [Bool.not_not]
  · rw [holdLevel?, if_neg haddress]
    split
    · next release hd =>
      obtain ⟨hp, hlow, hhigh, _⟩ := AddressMap.decode_secondaries_iff.mp hd
      exact absurd ⟨hp, hlow, hhigh⟩ haddress
    · rfl

end Operation

/-! ## One operation -/

namespace Board

variable {S : Type} [SoundChip S] {b : Board S}

/-- The second board is what becomes of the first once a register of the sound generator has been written,
if one has, and the reset line of sub and sound has been put to a level, if it has. What counts as a change
of the line is decided by the output, which is off while the line is asserted. -/
structure Hears (b : Board S) (write : Option (UInt8 × UInt8)) (line : Option Bool) (c : Board S) :
    Prop where
  sound : c.sound = (SoundCall.heard (!b.controls.soundOn) write line).foldl SoundCall.tell b.sound
  held : c.controls.secondariesHeld = line.getD b.controls.secondariesHeld

/-- What leaves the sound generator and the reset line alone tells nothing. -/
theorem hears_nothing {c : Board S} (hsound : c.sound = b.sound)
    (hheld : c.controls.secondariesHeld = b.controls.secondariesHeld) : b.Hears none none c := by
  refine ⟨?_, hheld⟩
  rw [SoundCall.heard_none]
  exact hsound

theorem Spares.hears_nothing {c : Board S} (h : b.Spares c) : b.Hears none none c :=
  Board.hears_nothing h.sound (congrArg Controls.secondariesHeld h.controls)

theorem hears_cell (b : Board S) (cell : Cell) (data : UInt8) :
    b.Hears
      (if cell.region = .sound ∧ cell.offset.val < soundRegisterCount then
        some (UInt8.ofNat cell.offset.val, data)
      else none) none
      { b with memory := b.memory.write cell data, sound := hear b.sound cell data } := by
  refine ⟨?_, rfl⟩
  rw [SoundCall.heard_none]
  unfold hear
  split <;> rfl

theorem output_switched (b : Board S) (level : Bool) :
    (if b.controls.soundOn = !level then b.sound else SoundChip.setEnabled b.sound (!level)) =
      (SoundCall.heard (!b.controls.soundOn) none (some level)).foldl SoundCall.tell b.sound := by
  cases b.controls.soundOn <;> cases level <;> rfl

theorem hears_holdSecondaries (b : Board S) (asserted : Bool) :
    b.Hears none (some asserted) (b.holdSecondaries asserted) := by
  rw [holdSecondaries_eq]
  exact ⟨b.output_switched asserted, rfl⟩

theorem hears_machineReset (b : Board S) : b.Hears none (some true) b.machineReset := by
  obtain ⟨j, hj⟩ := b.machineReset_eq
  rw [hj]
  exact ⟨b.output_switched true, rfl⟩

/-- The control registers other than the reset line of sub and sound tell nothing. -/
theorem hears_control (b : Board S) (p : Processor) (s : Switch) (data : UInt8) :
    b.Hears none (match s with | .secondaries release => some (!release) | _ => none)
      (b.control p s data) := by
  obtain ⟨j, hj⟩ := b.control_eq p s data
  cases s with
  | secondaries release => exact b.hears_holdSecondaries (!release)
  | interrupt q on =>
    rw [hj]
    exact hears_nothing rfl rfl
  | ioChips release =>
    rw [hj]
    exact hears_nothing rfl rfl
  | starfield register =>
    rw [hj]
    exact hears_nothing rfl rfl

theorem hears_write (b : Board S) (p : Processor) (a : UInt16) (data : UInt8) :
    b.Hears (Operation.write p a data).registerWrite? ((Operation.write p a data).holdLevel? .done)
      (b.write p a data) := by
  obtain ⟨j, hj⟩ := b.write_eq p a data
  rw [hj, Operation.registerWrite?_write, Operation.holdLevel?_write]
  cases AddressMap.decode p a .write with
  | ram cell => exact b.hears_cell cell data
  | rom _ | io _ _ | unmapped => exact hears_nothing rfl rfl
  | watchdog =>
    obtain ⟨main, sound, hserviced⟩ := b.serviceWatchdog_changes p
    simp only [hserviced]
    exact hears_nothing rfl rfl
  | control s =>
    have hcontrol := b.hears_control p s data
    cases s with
    | secondaries _ | interrupt _ _ | ioChips _ | starfield _ => exact hcontrol

theorem hears_frameSync (b : Board S) :
    b.Hears none (if b.frameSync.1.watchdogReset.isSome then some true else none) b.frameSync.2 := by
  obtain ⟨latches, io, hvblank, _⟩ := b.vblank_changes
  rw [frameSync_watchdogReset, frameSync_eq, hvblank]
  cases b.expired with
  | none => exact hears_nothing rfl rfl
  | some p =>
    -- counting the reset and reporting it comes first, and tells nothing
    exact ⟨(hears_machineReset _).sound, (hears_machineReset _).held⟩

/-- **Every operation tells the sound generator what its addresses and its answer say.** -/
theorem hears_perform (b : Board S) (op : Operation) :
    b.Hears op.registerWrite? (op.holdLevel? (b.perform op).1) (b.perform op).2 := by
  cases op with
  | write p a data => exact b.hears_write p a data
  | frameSync => exact b.hears_frameSync
  | machineReset => exact b.hears_machineReset
  | read _ _ | beginFrame | takeReset _ | notePc _ _ | setInput _ _ | press _ _ | takeEvents
  | configureSlot _ _ _ | loadRom _ _ | unloadRom _ | snapshot _ =>
    exact (b.perform_spares _ rfl).hears_nothing

/-! ## Histories -/

/-- What the sound generator is told by an operation. -/
def soundCalls (b : Board S) (op : Operation) : List SoundCall :=
  SoundCall.heard b.controls.secondariesHeld op.registerWrite? (op.holdLevel? (b.perform op).1)

/-- What the sound generator is told by operations that are done one after the other. -/
def soundTrace (b : Board S) : List Operation → List SoundCall
  | [] => []
  | op :: ops => b.soundCalls op ++ (b.perform op).2.soundTrace ops

/-- A history makes of the sound generator what the calls of its trace make of it. -/
theorem sound_after (h : b.state.Consistent) (ops : List Operation) :
    (b.after ops).sound = (b.soundTrace ops).foldl SoundCall.tell b.sound := by
  induction ops generalizing b with
  | nil => rfl
  | cons op ops ih =>
    have hfollows : b.controls.soundOn = !b.controls.secondariesHeld := h.sound_follows
    have hstep := (b.hears_perform op).sound
    rw [hfollows, Bool.not_not] at hstep
    rw [after, ih (h.perform op), hstep, soundTrace, soundCalls, List.foldl_append]

/-- The registers that a trace names are those that the history writes, in order. -/
theorem registers_soundTrace (b : Board S) (ops : List Operation) :
    (b.soundTrace ops).filterMap SoundCall.register? = ops.filterMap Operation.registerWrite? := by
  induction ops generalizing b with
  | nil => rfl
  | cons op ops ih =>
    rw [soundTrace, soundCalls, List.filterMap_append, SoundCall.filterMap_register?_heard, ih]
    cases hop : op.registerWrite? with
    | none => rw [List.filterMap_cons_none hop]; rfl
    | some call => rw [List.filterMap_cons_some hop]; rfl

/-- **The levels alternate**: the first is that of a line that leaves the level at which it is now. -/
theorem levels_soundTrace (h : b.state.Consistent) (ops : List Operation) {i : Nat} {level : Bool}
    (hi : ((b.soundTrace ops).filterMap SoundCall.level?)[i]? = some level) :
    level = if i % 2 = 0 then b.controls.secondariesHeld else !b.controls.secondariesHeld := by
  induction ops generalizing b i with
  | nil => cases hi
  | cons op ops ih =>
    have hheld := (b.hears_perform op).held
    rw [soundTrace, soundCalls, List.filterMap_append, SoundCall.filterMap_level?_heard, ← hheld] at hi
    by_cases hsame : (b.perform op).2.controls.secondariesHeld = b.controls.secondariesHeld
    · rw [if_pos hsame, List.nil_append] at hi
      rw [← hsame]
      exact ih (h.perform op) hi
    · rw [if_neg hsame] at hi
      cases i with
      | zero => exact (Option.some.inj hi).symm
      | succ i =>
        -- the line has changed, and so has the parity of what was said before
        rw [ih (h.perform op) hi, Bool.eq_not_of_ne hsame, Bool.not_not]
        by_cases heven : i % 2 = 0
        · rw [if_pos heven, if_neg (by omega)]
        · rw [if_neg heven, if_pos (by omega)]

/-- **Exactly what the sound generator is told.** Fit a recorder to the sound generator of a board that is
switched on, and do to the board whatever may be done to it short of restoring a saved state. What was
recorded is the trace of the operations, each of which tells what its addresses, its answer and the reset
line before it say. The registers in it are those that the operations write, once for each write, and what
the output is switched to alternates, beginning with on. The generator has become what these calls make
of it. -/
theorem sound_trace_exact {layout : IoLayout} {inputs : Inputs} {frames : UInt32} {chip : S}
    {b : Board (Recorded S)} (h : powerOn layout inputs frames (.fitted chip) = .ok b)
    (ops : List Operation) :
    (b.after ops).sound.calls.reverse = b.soundTrace ops ∧
      (b.after ops).sound.chip = (b.soundTrace ops).foldl SoundCall.tell chip ∧
      (b.soundTrace ops).filterMap SoundCall.register? = ops.filterMap Operation.registerWrite? ∧
      ∀ i level, ((b.soundTrace ops).filterMap SoundCall.level?)[i]? = some level →
        level = decide (i % 2 = 0) := by
  rw [powerOn_eq] at h
  cases h
  have hconsistent := consistent_stock layout inputs frames (Recorded.fitted chip)
  have hsound := (sound_after hconsistent ops).trans (Recorded.foldl_tell _ _)
  refine ⟨?_, ?_, registers_soundTrace _ ops, ?_⟩
  · rw [hsound]
    show (_ ++ []).reverse = _
    rw [List.append_nil, List.reverse_reverse]
  · rw [hsound]
    rfl
  · intro i level hi
    rw [levels_soundTrace hconsistent ops hi]
    by_cases heven : i % 2 = 0
    · rw [if_pos heven, decide_eq_true heven]
      rfl
    · rw [if_neg heven, decide_eq_false heven]
      rfl

/-- Main releases sub and sound twice and both of them write a register; the watchdog, which nobody
services, then resets the machine, and another reset has nothing to say. -/
theorem sound_trace_exact_watchdog :
    let layout : IoLayout := ⟨⟨⟨.playerCoin, .part56⟩, ⟨.dipSwitch, .part58⟩⟩, true⟩
    let ops : List Operation :=
      [.write .main 0x8000 0, .write .main 0x87FF 0, .write .main 0x643F 7, .write .sound 0x1C05 9,
        .write .sub 0x6005 1, .frameSync, .machineReset]
    ∃ b, powerOn layout (.atRest 0xFF 0xF8) 1 (Recorded.fitted SoundRegisters.silent) = .ok b ∧
      (b.after ops).sound.calls.reverse = [.enable true, .write 0x3F 7, .write 5 9, .enable false] ∧
      (b.after ops).sound.chip.enabled = false := by
  intro layout ops
  have hb := powerOn_eq layout (.atRest 0xFF 0xF8) 1 (Recorded.fitted SoundRegisters.silent)
  obtain ⟨hcalls, hchip, _⟩ := sound_trace_exact hb ops
  refine ⟨_, hb, ?_, ?_⟩
  · rw [hcalls]
    decide +kernel
  · rw [hchip]
    decide +kernel

end Board

end Arcade
