import Arcade.Proofs.Bits
import Arcade.Proofs.Board.Consistency
import Arcade.Proofs.Board.Restore
import Arcade.Proofs.Board.Runs
import Arcade.Proofs.Memory.Decode

/-!
# `Arcade.Proofs.Board.OutputWrites` — the outputs as a function of the writes that reach them

A write to the chips reaches a latch if it addresses a fitted player chip while the chips run; the latch is
chosen by an address line. Such a write is *accepted*. The outputs of a board with stock wiring can be read
off the accepted writes of its history: the lamps and the lockout show bits of the last one, and a counter
has counted the writes that pull its line low and are not preceded by one that did so already.

The last level of a counter's line is kept by the outputs and not by the chips. So holding the chips,
resetting the machine, or writing in vain between two accepted writes does not add to the count, and does
not take from it.

## Contents
- `lastHigh` and `coinPulses`: a bit of one byte after another.
- `Outputs.driven`, and `driven_eq_foldl`: a part of the outputs that hangs on one latch.
- `levels_driven`, `coinCounters_driven`: the lamps and the lockout, and the counters.
- `Operation.latchWrite?`, `Board.accepts`, `Board.accepted`.
- `Outputs.offer`, `IoBank.write_fst`: a write to the chips touches the outputs and the queue.
- `outputs_perform`, `outputs_after`: the outputs are driven by the accepted writes.
- `outputs_follow_writes`.
-/

namespace Arcade

/-! ## Bits of written bytes -/

/-- Whether the last byte of a list has a line high; a line that was never driven is low. -/
def lastHigh (line : Nat) (written : List UInt8) : Bool := (written.getLast?.map (isHigh line)).getD false

/-- How many bytes of a list have a line low and come directly after a byte that has it high, or after
nothing. -/
def coinPulses (line : Nat) (before : Option UInt8) : List UInt8 → Nat
  | [] => 0
  | data :: later =>
    (if !isHigh line data && before.all (isHigh line) then 1 else 0) + coinPulses line (some data) later

/-! ## Outputs -/

/-- The bytes that were written to a latch, in order. -/
def writesTo (latch : OutputLatch) (writes : List (OutputLatch × UInt8)) : List UInt8 :=
  writes.filterMap fun w => if w.1 = latch then some w.2 else none

theorem writesTo_cons_self (latch : OutputLatch) (data : UInt8) (writes : List (OutputLatch × UInt8)) :
    writesTo latch ((latch, data) :: writes) = data :: writesTo latch writes :=
  List.filterMap_cons_some (if_pos rfl)

theorem writesTo_cons_of_ne {latch other : OutputLatch} (h : other ≠ latch) (data : UInt8)
    (writes : List (OutputLatch × UInt8)) :
    writesTo latch ((other, data) :: writes) = writesTo latch writes :=
  List.filterMap_cons_none (if_neg h)

namespace Outputs

/-- The outputs after some writes to the latches. -/
def driven (o : Outputs) (writes : List (OutputLatch × UInt8)) : Outputs :=
  writes.foldl (fun o w => (o.drive w.1 w.2).1) o

theorem driven_append (o : Outputs) (writes later : List (OutputLatch × UInt8)) :
    o.driven (writes ++ later) = (o.driven writes).driven later := List.foldl_append

theorem driveLamp_eq (o : Outputs) (i : Fin 2) (on : Bool) :
    (o.driveLamp i on).1 = { o with lamps := o.lamps.set i on } := by
  unfold driveLamp
  by_cases hon : o.lamps.get i = on
  · rw [if_pos hon, ← hon, Pair.set_get]
  · rw [if_neg hon]

theorem driveLockout_eq (o : Outputs) (on : Bool) :
    (o.driveLockout on).1 = { o with coinLockout := on } := by
  unfold driveLockout
  by_cases hon : o.coinLockout = on
  · rw [if_pos hon, ← hon]
  · rw [if_neg hon]

/-- What the lamps and the lockout show. -/
def levels (o : Outputs) : Pair Bool × Bool := (o.lamps, o.coinLockout)

/-- A counter and the last level of its input. -/
def meter (o : Outputs) (i : Fin 2) : UInt32 × Bool := (o.coinCounters.get i, o.counterInputs.get i)

theorem levels_driveCounter (o : Outputs) (i : Fin 2) (level : Bool) :
    (o.driveCounter i level).1.levels = o.levels := by
  unfold driveCounter
  split <;> rfl

/-- A counter counts if its input was low and is high now. -/
theorem meter_driveCounter (o : Outputs) (i : Fin 2) (level : Bool) :
    (o.driveCounter i level).1.meter i =
      (if level && !(o.meter i).2 then (o.meter i).1 + 1 else (o.meter i).1, level) := by
  unfold driveCounter meter
  split <;> simp

theorem meter_driveCounter_of_ne (o : Outputs) {i j : Fin 2} (level : Bool) (h : i ≠ j) :
    (o.driveCounter i level).1.meter j = o.meter j := by
  unfold driveCounter meter
  split <;> simp [Pair.get_set_of_ne, h]

/-- The lamps and the lockout show what was driven last, whatever they showed before. -/
theorem levels_drive (o : Outputs) (data : UInt8) :
    (o.drive .lamps data).1.levels = (⟨isHigh 0 data, isHigh 1 data⟩, isHigh 2 data) := by
  show ((((o.driveLamp 0 _).1.driveLamp 1 _).1.driveLockout _).1.driveCounter 0 _).1.levels = _
  rw [levels_driveCounter, driveLockout_eq, driveLamp_eq, driveLamp_eq, decide_mask_ne_zero 0 rfl,
    decide_mask_ne_zero 1 rfl, decide_mask_ne_zero 2 rfl]
  rfl

/-- What a byte makes of a counter and the last level of its input, which is high when the line is low. -/
def count (line : Nat) (m : UInt32 × Bool) (data : UInt8) : UInt32 × Bool :=
  (if !isHigh line data && !m.2 then m.1 + 1 else m.1, !isHigh line data)

/-- The latch on which a counter hangs, and its line in that latch. -/
def counterLine : Fin 2 → OutputLatch × Nat
  | 0 => (.lamps, 3)
  | 1 => (.counter, 0)

theorem meter_drive (o : Outputs) (i : Fin 2) (data : UInt8) :
    (o.drive (counterLine i).1 data).1.meter i = count (counterLine i).2 (o.meter i) data := by
  match i with
  | 0 =>
    show ((((o.driveLamp 0 _).1.driveLamp 1 _).1.driveLockout _).1.driveCounter 0 _).1.meter 0 = _
    rw [meter_driveCounter, driveLockout_eq, driveLamp_eq, driveLamp_eq, decide_mask_eq_zero 3 rfl]
    rfl
  | 1 =>
    show (o.driveCounter 1 _).1.meter 1 = _
    rw [meter_driveCounter, decide_mask_eq_zero 0 rfl]
    rfl

theorem meter_drive_of_ne (o : Outputs) (i : Fin 2) (data : UInt8) {latch : OutputLatch}
    (h : latch ≠ (counterLine i).1) : (o.drive latch data).1.meter i = o.meter i := by
  match i, latch with
  | 0, .lamps => exact absurd rfl h
  | 0, .counter => exact o.meter_driveCounter_of_ne _ (by decide)
  | 1, .lamps =>
    show ((((o.driveLamp 0 _).1.driveLamp 1 _).1.driveLockout _).1.driveCounter 0 _).1.meter 1 = _
    rw [meter_driveCounter_of_ne _ _ (by decide), driveLockout_eq, driveLamp_eq, driveLamp_eq]
    rfl
  | 1, .counter => exact absurd rfl h

/-- **A part of the outputs that hangs on one latch** is made of the bytes written to that latch. -/
theorem driven_eq_foldl {α : Type} (part : Outputs → α) {latch : OutputLatch} {change : α → UInt8 → α}
    (hself : ∀ o data, part (o.drive latch data).1 = change (part o) data)
    (hother : ∀ o data other, other ≠ latch → part (o.drive other data).1 = part o) (o : Outputs)
    (writes : List (OutputLatch × UInt8)) :
    part (o.driven writes) = (writesTo latch writes).foldl change (part o) := by
  induction writes generalizing o with
  | nil => rfl
  | cons w writes ih =>
    obtain ⟨l, data⟩ := w
    show part ((o.drive l data).1.driven writes) = _
    rw [ih]
    by_cases hl : l = latch
    · subst hl
      rw [hself, writesTo_cons_self]
      rfl
    · rw [hother _ _ _ hl, writesTo_cons_of_ne hl]

/-- The last of some values, or the one before them. -/
theorem foldl_last {α β : Type} (f : β → α) (l : List β) (a : α) :
    l.foldl (fun _ x => f x) a = (l.getLast?.map f).getD a := by
  induction l generalizing a with
  | nil => rfl
  | cons x l ih =>
    rw [List.foldl_cons, ih, List.getLast?_cons]
    cases l.getLast? <;> rfl

/-- From outputs at rest, the lamps and the lockout show bits of the last byte. -/
theorem levels_driven (writes : List (OutputLatch × UInt8)) :
    (idle.driven writes).levels =
      (⟨lastHigh 0 (writesTo .lamps writes), lastHigh 1 (writesTo .lamps writes)⟩,
        lastHigh 2 (writesTo .lamps writes)) := by
  have hother : ∀ (o : Outputs) (data : UInt8) (other : OutputLatch), other ≠ .lamps →
      (o.drive other data).1.levels = o.levels := by
    intro o data other hne
    cases other with
    | lamps => exact absurd rfl hne
    | counter => exact o.levels_driveCounter 1 _
  have hdriven : (idle.driven writes).levels =
      (writesTo .lamps writes).foldl
        (fun _ data => (⟨isHigh 0 data, isHigh 1 data⟩, isHigh 2 data)) idle.levels :=
    driven_eq_foldl levels levels_drive hother idle writes
  rw [hdriven, foldl_last]
  unfold lastHigh
  cases (writesTo .lamps writes).getLast? <;> rfl

/-- **A counter counts pulses.** What it last saw at its input is the level of the byte before. -/
theorem foldl_count (line : Nat) (before : Option UInt8) (written : List UInt8) (n : UInt32) :
    (written.foldl (count line) (n, !before.all (isHigh line))).1 =
      n + UInt32.ofNat (coinPulses line before written) := by
  induction written generalizing n before with
  | nil => exact (UInt32.add_zero n).symm
  | cons data written ih =>
    have hlevel : (!isHigh line data) = !(some data).all (isHigh line) := rfl
    rw [List.foldl_cons, count, Bool.not_not]
    dsimp only
    rw [hlevel, ih, ← hlevel, coinPulses]
    split
    · rw [UInt32.ofNat_add, UInt32.add_assoc]
      rfl
    · rw [Nat.zero_add]

/-- From outputs at rest, a counter shows the number of pulses on its line. -/
theorem coinCounters_driven (i : Fin 2) (writes : List (OutputLatch × UInt8)) :
    (idle.driven writes).coinCounters.get i =
      UInt32.ofNat (coinPulses (counterLine i).2 none (writesTo (counterLine i).1 writes)) := by
  have hmeter : (idle.driven writes).meter i =
      (writesTo (counterLine i).1 writes).foldl (count (counterLine i).2) (idle.meter i) :=
    driven_eq_foldl (fun o => o.meter i) (fun o data => o.meter_drive i data)
      (fun o data _ hother => o.meter_drive_of_ne i data hother) idle writes
  have hidle : idle.meter i = (0, !(none : Option UInt8).all (isHigh (counterLine i).2)) := by
    match i with
    | 0 => rfl
    | 1 => rfl
  have hcounted := foldl_count (counterLine i).2 none (writesTo (counterLine i).1 writes) 0
  rw [← hidle, ← hmeter, UInt32.zero_add] at hcounted
  exact hcounted

/-- The upper half of a byte drives nothing. -/
theorem drive_congr (o : Outputs) (latch : OutputLatch) {data data' : UInt8}
    (h : data &&& 0x0F = data' &&& 0x0F) : o.drive latch data = o.drive latch data' := by
  have hmask (mask : UInt8) (hlow : 0x0F &&& mask = mask) : data &&& mask = data' &&& mask := by
    rw [← hlow, ← UInt8.and_assoc, ← UInt8.and_assoc, h]
  unfold drive
  rw [hmask 0x01 rfl, hmask 0x02 rfl, hmask 0x04 rfl, hmask 0x08 rfl]

end Outputs

/-! ## Writes that reach a latch -/

/-- How the chips of a layout are wired. -/
def IoLayout.wiring (layout : IoLayout) :
    Pair (Vector (ReadPort InputGroup) 4 × Vector (WritePort OutputLatch) 2) :=
  layout.slots.map fun spec => ((spec.kind.wiring layout.lamps).reads, (spec.kind.wiring layout.lamps).writes)

/-- There are two slots, and numerals name them. -/
local instance neZero_slots : NeZero 2 := ⟨by decide⟩

/-- The write to a latch that an operation is: a write of main to a fitted slot with a player chip. `A4`
selects the slot, and `A0` the latch. -/
def Operation.latchWrite? (layout : IoLayout) : Operation → Option (OutputLatch × UInt8)
  | .write p a data =>
    if p = .main ∧ 0x6800 ≤ a ∧ a ≤ 0x6FFF ∧ AddressMap.lineHigh a 5 = false ∧
        (layout.slots.get (if AddressMap.lineHigh a 4 then 1 else 0)).kind = .playerCoin then
      some (if AddressMap.lineHigh a 0 then .counter else .lamps, data)
    else none
  | _ => none

/-- Whether an operation has put another chip into a slot. -/
def Operation.rewires : Operation → Answer → Bool
  | .configureSlot _ _ _, .done => true
  | _, _ => false

/-- The latch that a register of a slot is wired to, if a player chip is fitted there. -/
def IoLayout.latch? (layout : IoLayout) (slot register : Nat) : Option OutputLatch :=
  match layout.slots.get? slot with
  | some spec =>
    if spec.kind = .playerCoin then some (if register % 2 = 0 then .lamps else .counter) else none
  | none => none

/-- In terms of the decoder, a write to a latch is one to a register that is wired to the latch. -/
theorem Operation.latchWrite?_write (layout : IoLayout) (p : Processor) (a : UInt16) (data : UInt8) :
    (Operation.write p a data).latchWrite? layout =
      match AddressMap.decode p a .write with
      | .io slot register => (layout.latch? slot.val register.val).map (·, data)
      | _ => none := by
  by_cases hwindow : p = .main ∧ 0x6800 ≤ a ∧ a ≤ 0x6FFF
  · obtain ⟨rfl, hlow, hhigh⟩ := hwindow
    rw [AddressMap.decode_io_iff.mpr ⟨rfl, hlow, hhigh, rfl, rfl⟩]
    simp only [latchWrite?, IoLayout.latch?, hlow, hhigh, true_and, AddressMap.slotOf_val,
      AddressMap.registerOf_mod_two]
    cases AddressMap.lineHigh a 5 <;> cases AddressMap.lineHigh a 4 <;> cases AddressMap.lineHigh a 0 <;>
      simp [Pair.get?, Pair.get, apply_ite]
  · have hnone : (Operation.write p a data).latchWrite? layout = none :=
      if_neg fun h => hwindow ⟨h.1, h.2.1, h.2.2.1⟩
    rw [hnone]
    cases hd : AddressMap.decode p a .write with
    | io slot register =>
      obtain ⟨hp, hlow, hhigh, -⟩ := AddressMap.decode_io_iff.mp hd
      exact absurd ⟨hp, hlow, hhigh⟩ hwindow
    | ram _ | rom _ | watchdog | control _ | unmapped => rfl

/-- What a byte makes of the outputs, and what is told, if it goes into a latch or into none. -/
def Outputs.offer (o : Outputs) (data : UInt8) : Option OutputLatch → Outputs × List OutputEvent
  | some latch => o.drive latch data
  | none => (o, [])

namespace IoBank

/-- The latch that a write to a register of a slot drives. -/
def sink? (a : IoBank) (slot register : Nat) (data : UInt8) : Option OutputLatch :=
  (a.slot? slot).bind fun s => (s.chip.sink (register % 2) data).1

/-- A write to the chips touches the outputs and the queue alone. -/
theorem write_fst (a : IoBank) (slot register : Nat) (data : UInt8) :
    (a.write slot register data).1 =
      { a with
        outputs := (a.outputs.offer data (a.sink? slot register data)).1
        events := a.events ++ (a.outputs.offer data (a.sink? slot register data)).2 } := by
  -- nothing is queued if no latch is driven
  have hquiet : a.events ++ ([] : List OutputEvent) = a.events := Array.appendList_nil
  unfold write sink?
  cases a.slot? slot with
  | none =>
    show a = { a with events := a.events ++ ([] : List OutputEvent) }
    rw [hquiet]
  | some s =>
    rw [Option.bind_some]
    dsimp only
    cases s.chip.sink (register % 2) data with
    | mk latch notices =>
      cases latch with
      | none =>
        show a = { a with events := a.events ++ ([] : List OutputEvent) }
        rw [hquiet]
      | some latch => rfl

theorem outputs_write (a : IoBank) (slot register : Nat) (data : UInt8) :
    (a.write slot register data).1.outputs =
      a.outputs.driven ((a.sink? slot register data).map (·, data)).toList := by
  rw [write_fst]
  cases a.sink? slot register data <;> rfl

/-- **A player chip drives the latch to which a register is wired**, unless the chip is in reset or no lamps
are fitted. -/
theorem sink?_eq {a : IoBank} {layout : IoLayout} {held : Bool} (hwiring : a.wiring = layout.wiring)
    (hfollows : a.Follows held) (slot register : Nat) (data : UInt8) :
    a.sink? slot register data =
      if layout.lamps = true ∧ held = false then layout.latch? slot register else none := by
  unfold sink? IoLayout.latch?
  by_cases hs : slot < 2
  · have hreset : (a.slots.get ⟨slot, hs⟩).chip.state.reset = held := by
      rw [← get_chipStates]
      exact (hfollows ⟨slot, hs⟩).1
    have hwrites : (a.slots.get ⟨slot, hs⟩).chip.writes =
        ((layout.slots.get ⟨slot, hs⟩).kind.wiring layout.lamps).writes := by
      have hports := congrArg (fun w => (w.get ⟨slot, hs⟩).2) hwiring
      dsimp only [wiring, IoLayout.wiring] at hports
      rw [Pair.get_map, Pair.get_map] at hports
      exact hports
    have hport : register % 2 = 0 ∨ register % 2 = 1 := by omega
    rw [slot?_of_lt a hs, Pair.get?_eq_some_get layout.slots ⟨slot, hs⟩, Option.bind_some]
    dsimp only
    unfold IoChip.sink
    rw [hreset, hwrites]
    cases held with
    | true => rw [if_pos rfl, if_neg fun h => nomatch h.2]
    | false =>
      -- four wirings and two ports
      unfold ChipKind.wiring
      cases (layout.slots.get ⟨slot, hs⟩).kind <;> cases layout.lamps <;>
        rcases hport with hport | hport <;> rw [hport] <;> rfl
  · rw [slot?_of_le a (Nat.le_of_not_lt hs)]
    obtain ⟨n, rfl⟩ := Nat.exists_eq_add_of_le' (Nat.le_of_not_lt hs)
    exact (ite_self _).symm

end IoBank

/-! ## Boards -/

namespace Board

variable {S : Type} [SoundChip S] {b : Board S} {layout : IoLayout}

/-- The accepted write that an operation is: a write to a latch, unless the chips are held. -/
def accepts (layout : IoLayout) (b : Board S) (op : Operation) : List (OutputLatch × UInt8) :=
  if b.controls.chipsHeld then [] else (op.latchWrite? layout).toList

/-- What an operation drives into the latches: its accepted write, if lamps are fitted. -/
def drives (layout : IoLayout) (b : Board S) (op : Operation) : List (OutputLatch × UInt8) :=
  if layout.lamps then b.accepts layout op else []

/-- The accepted writes of a history. -/
def accepted (layout : IoLayout) (b : Board S) : List Operation → List (OutputLatch × UInt8)
  | [] => []
  | op :: ops => b.accepts layout op ++ (b.perform op).2.accepted layout ops

/-- Wiring only changes when a chip is put into a slot. -/
theorem wiring_perform (b : Board S) {op : Operation} (hop : op.rewires (b.perform op).1 = false) :
    (b.perform op).2.io.wiring = b.io.wiring := by
  cases op with
  | read _ _ | write _ _ _ | beginFrame | frameSync | takeReset _ | notePc _ _ =>
    exact congrArg Hardware.wiring (b.hardware_perform rfl)
  | machineReset => exact congrArg Hardware.wiring b.hardware_machineReset
  | configureSlot slot spec wiring =>
    simp only [perform] at hop ⊢
    cases hb : b.configureSlot slot spec wiring with
    | error problem => rfl
    | ok b' =>
      rw [hb] at hop
      cases hop
  | loadRom p image =>
    obtain ⟨roms, loaded, hb⟩ := b.perform_loadRom p image
    rw [hb]
  | setInput _ _ | press _ _ | takeEvents | unloadRom _ | snapshot _ => rfl

theorem outputs_machineReset (b : Board S) : b.machineReset.io.outputs = b.io.outputs := by
  obtain ⟨j, hj⟩ := b.machineReset_eq
  rw [hj]
  rfl

theorem outputs_control (b : Board S) (p : Processor) (s : Switch) (data : UInt8) :
    (b.control p s data).io.outputs = b.io.outputs := by
  obtain ⟨_, io, _, _, _, _, _, hb, hio⟩ := b.control_changes p s data
  rw [hb]
  rcases hio with rfl | ⟨asserted, rfl⟩ <;> rfl

omit [SoundChip S] in
theorem drives_of_none {op : Operation} (h : op.latchWrite? layout = none) : b.drives layout op = [] := by
  rw [drives, accepts, h]
  cases layout.lamps <;> cases b.controls.chipsHeld <;> rfl

theorem outputs_write (hwiring : b.io.wiring = layout.wiring)
    (hfollows : b.io.Follows b.controls.chipsHeld) (p : Processor) (a : UInt16) (data : UInt8) :
    (b.write p a data).io.outputs = b.io.outputs.driven (b.drives layout (.write p a data)) := by
  have hlatch := Operation.latchWrite?_write layout p a data
  obtain ⟨j, hj⟩ := b.write_eq p a data
  rw [hj]
  cases hd : AddressMap.decode p a .write with
  | io slot register =>
    rw [hd] at hlatch
    dsimp only at hlatch ⊢
    rw [IoBank.outputs_write, IoBank.sink?_eq hwiring hfollows, drives, accepts, hlatch]
    cases layout.lamps <;> cases b.controls.chipsHeld <;> rfl
  | ram _ | rom _ | unmapped =>
    rw [hd] at hlatch
    rw [drives_of_none hlatch]
    rfl
  | watchdog =>
    rw [hd] at hlatch
    obtain ⟨main, sound, hserviced⟩ := b.serviceWatchdog_changes p
    dsimp only
    rw [drives_of_none hlatch, hserviced]
    rfl
  | control s =>
    rw [hd] at hlatch
    rw [drives_of_none hlatch]
    exact b.outputs_control p s data

theorem outputs_frameSync (b : Board S) : b.frameSync.2.io.outputs = b.io.outputs := by
  obtain ⟨latches, io, hvblank, houtputs⟩ := b.vblank_changes
  have hticked : b.vblank.ticked.io.outputs = b.io.outputs := by
    rw [hvblank]
    exact houtputs
  rw [frameSync_eq]
  cases b.expired with
  | none => exact hticked
  | some p => exact (outputs_machineReset _).trans hticked

/-- **An operation drives the latches of its accepted writes**, and nothing else changes the outputs. -/
theorem outputs_perform (hwiring : b.io.wiring = layout.wiring) (h : b.state.Consistent) (op : Operation) :
    (b.perform op).2.io.outputs = b.io.outputs.driven (b.drives layout op) := by
  cases op with
  | write p a data => exact outputs_write hwiring h.chips_follow p a data
  | frameSync =>
    rw [drives_of_none rfl]
    exact b.outputs_frameSync
  | machineReset =>
    rw [drives_of_none rfl]
    exact b.outputs_machineReset
  | read _ _ | beginFrame | takeReset _ | notePc _ _ | setInput _ _ | press _ _ | takeEvents
  | configureSlot _ _ _ | loadRom _ _ | unloadRom _ | snapshot _ =>
    rw [drives_of_none rfl]
    exact (b.perform_spares _ rfl).outputs

/-- **A history drives the latches of its accepted writes**, one after the other. -/
theorem outputs_after (hwiring : b.io.wiring = layout.wiring) (h : b.state.Consistent)
    (ops : List Operation) (hstock : ∀ e ∈ b.history ops, e.1.rewires e.2 = false) :
    (b.after ops).io.outputs =
      b.io.outputs.driven (if layout.lamps then b.accepted layout ops else []) := by
  induction ops generalizing b with
  | nil => cases layout.lamps <;> rfl
  | cons op ops ih =>
    rw [history_cons] at hstock
    have hop : op.rewires (b.perform op).1 = false := hstock _ List.mem_cons_self
    have hrest := fun e he => hstock e (List.mem_cons_of_mem _ he)
    have hwiring' := (b.wiring_perform hop).trans hwiring
    rw [after, ih hwiring' (h.perform op) hrest, outputs_perform hwiring h, ← Outputs.driven_append, drives,
      accepted]
    cases layout.lamps <;> rfl

theorem wiring_after (ops : List Operation) (hstock : ∀ e ∈ b.history ops, e.1.rewires e.2 = false) :
    (b.after ops).io.wiring = b.io.wiring := by
  induction ops generalizing b with
  | nil => rfl
  | cons op ops ih =>
    rw [history_cons] at hstock
    have hop : op.rewires (b.perform op).1 = false := hstock _ List.mem_cons_self
    rw [after, ih fun e he => hstock e (List.mem_cons_of_mem _ he)]
    exact b.wiring_perform hop

omit [SoundChip S] in
/-- Which latch a write drives does not depend on the byte, and what it drives not on its upper half. -/
theorem driven_drives_congr (b : Board S) (o : Outputs) (p : Processor) (a : UInt16) {data data' : UInt8}
    (h : data &&& 0x0F = data' &&& 0x0F) :
    o.driven (b.drives layout (.write p a data)) = o.driven (b.drives layout (.write p a data')) := by
  obtain ⟨latch, hlatch⟩ : ∃ latch : Option OutputLatch, ∀ data,
      (Operation.write p a data).latchWrite? layout = latch.map (·, data) := by
    simp only [Operation.latchWrite?_write]
    cases AddressMap.decode p a .write with
    | io slot register => exact ⟨_, fun _ => rfl⟩
    | ram _ | rom _ | watchdog | control _ | unmapped => exact ⟨none, fun _ => rfl⟩
  simp only [drives, accepts, hlatch]
  cases layout.lamps with
  | false => rfl
  | true =>
    cases b.controls.chipsHeld with
    | true => rfl
    | false =>
      cases latch with
      | none => rfl
      | some latch => exact congrArg Prod.fst (o.drive_congr latch h)

/-- **The outputs are a function of the accepted writes.** On a board that was switched on, and after whatever
was done to it since, short of restoring a saved state and of putting another chip into a slot: with lamps
fitted, the lamps and the lockout show the first three bits of the last byte that was accepted for their
latch, and each counter has counted the accepted bytes that have its bit low and come first or directly
after one that has it high; without lamps, the outputs are as they were at first. What is not accepted
leaves the outputs alone, and so does the upper half of a byte. -/
theorem outputs_follow_writes {inputs : Inputs} {frames : UInt32} {sound : S}
    (h : powerOn layout inputs frames sound = .ok b) (ops : List Operation)
    (hstock : ∀ e ∈ b.history ops, e.1.rewires e.2 = false) :
    (layout.lamps = true →
      (b.after ops).io.outputs.lamps =
          ⟨lastHigh 0 (writesTo .lamps (b.accepted layout ops)),
            lastHigh 1 (writesTo .lamps (b.accepted layout ops))⟩ ∧
        (b.after ops).io.outputs.coinLockout = lastHigh 2 (writesTo .lamps (b.accepted layout ops)) ∧
        (b.after ops).io.outputs.coinCounters =
          ⟨UInt32.ofNat (coinPulses 3 none (writesTo .lamps (b.accepted layout ops))),
            UInt32.ofNat (coinPulses 0 none (writesTo .counter (b.accepted layout ops)))⟩) ∧
      (layout.lamps = false → (b.after ops).io.outputs = .idle) ∧
      (∀ op, (b.after ops).accepts layout op = [] →
        ((b.after ops).perform op).2.io.outputs = (b.after ops).io.outputs) ∧
      ∀ p a data data', data &&& 0x0F = data' &&& 0x0F →
        ((b.after ops).write p a data).io.outputs = ((b.after ops).write p a data').io.outputs := by
  rw [powerOn_eq] at h
  cases h
  have hconsistent := consistent_stock layout inputs frames sound
  have hstart : (stock layout inputs frames sound).io.wiring = layout.wiring := rfl
  have houtputs := outputs_after hstart hconsistent ops hstock
  have hwiring := (wiring_after ops hstock).trans hstart
  have hafter := hconsistent.after ops
  refine ⟨?_, ?_, ?_, ?_⟩
  · intro hlamps
    rw [if_pos hlamps] at houtputs
    generalize (stock layout inputs frames sound).accepted layout ops = writes at houtputs ⊢
    have hlevels := Outputs.levels_driven writes
    have hcounters := congr (congrArg Pair.mk (Outputs.coinCounters_driven 0 writes))
      (Outputs.coinCounters_driven 1 writes)
    rw [houtputs]
    exact ⟨congrArg Prod.fst hlevels, congrArg Prod.snd hlevels, hcounters⟩
  · intro hlamps
    rw [hlamps] at houtputs
    exact houtputs
  · intro op hop
    rw [outputs_perform hwiring hafter, drives, hop, ite_self]
    rfl
  · intro p a data data' hlow
    rw [outputs_write hwiring hafter.chips_follow, outputs_write hwiring hafter.chips_follow,
      driven_drives_congr _ _ p a hlow]

/-- The player chip sits in the second slot. It counts a coin and lights both lamps, misses what is written
while the machine is reset, and does not count again until its line has been high. -/
theorem outputs_follow_writes_missed :
    let layout : IoLayout := ⟨⟨⟨.dipSwitch, .part58⟩, ⟨.playerCoin, .part56⟩⟩, true⟩
    let ops : List Operation :=
      [.write .main 0x6810 0xF3, .write .main 0x9000 0, .write .main 0x6800 0x04, .write .main 0x6810 0xF3,
        .machineReset, .write .main 0x6810 0x08, .write .main 0x9000 0, .write .main 0x6FD2 0x01,
        .write .main 0x6810 0x08, .write .main 0x6810 0x04, .write .main 0x6811 0x00]
    ∃ b, powerOn layout (.atRest 0xFF 0xF8) 8 SoundRegisters.silent = .ok b ∧
      (∀ e ∈ b.history ops, e.1.rewires e.2 = false) ∧
      (b.after ops).io.outputs.lamps = ⟨false, false⟩ ∧ (b.after ops).io.outputs.coinLockout = true ∧
      (b.after ops).io.outputs.coinCounters = ⟨2, 1⟩ := by
  intro layout ops
  have hb := powerOn_eq layout (.atRest 0xFF 0xF8) 8 SoundRegisters.silent
  have hstock : ∀ e ∈ (stock layout (.atRest 0xFF 0xF8) 8 SoundRegisters.silent).history ops,
      e.1.rewires e.2 = false := by decide +kernel
  obtain ⟨hlamps, hlockout, hcounters⟩ := (outputs_follow_writes hb ops hstock).1 rfl
  refine ⟨_, hb, hstock, hlamps.trans ?_, hlockout.trans ?_, hcounters.trans ?_⟩
  · decide +kernel
  · decide +kernel
  · decide +kernel

end Board

end Arcade
