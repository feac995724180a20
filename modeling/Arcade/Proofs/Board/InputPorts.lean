import Arcade.Proofs.Board.Rewiring

/-!
# `Arcade.Proofs.Board.InputPorts` — from the buttons to the ports of the chips

The host presses buttons and sets whole input bytes; main reads ports of the chips, each of which shows half
of an input byte. What is in between is followed here line by line. A line of an input byte has the level
that the last press, release or setting of the byte gave it, or the one it had when the board was switched
on, whatever else has been done to the board. A port shows four of these lines, while its chip is not in
reset.

## Contents
- `isHigh_extract`, `extract_low_or_high`, `isHigh_pullLow`: halves of bytes, and lines that are pulled low.
- `Inputs.isHigh_press`, `Inputs.isPressed_press`: a button and its line.
- `Operation.inputLevel?`, `lastInputLevel`, `initialLevel`: the levels that a history gives to the lines.
- `level_perform`, `level_after`: the lines follow the history.
- `IoLayout.Shows`: where main reads which half of which byte.
- `Board.PortsShow`, and `ports_show_inputs`.
-/

namespace Arcade

/-! ## Lines of bytes -/

/-- The lowest line of half of a byte. -/
def Nibble.first : Nibble → Nat
  | .low => 0
  | .high => 4

/-- **Half of a byte has four of its lines**, and nothing above them. -/
theorem isHigh_extract (n : Nibble) (byte : UInt8) (line : Nat) :
    isHigh line (n.extract byte) = (decide (line < 4) && isHigh (n.first + line) byte) := by
  cases n with
  | low =>
    show isHigh line (byte &&& 0x0F) = (decide (line < 4) && isHigh (0 + line) byte)
    rw [isHigh_and_low, Nat.zero_add]
  | high =>
    show isHigh line (byte >>> 4) = (decide (line < 4) && isHigh (4 + line) byte)
    rw [isHigh_shiftRight line byte 4 (by decide)]
    show isHigh (4 + line) byte = _
    by_cases hline : line < 4
    · rw [decide_eq_true hline, Bool.true_and]
    · rw [isHigh_of_le (by omega), decide_eq_false hline, Bool.false_and]

/-- **A byte is its two halves.** -/
theorem extract_low_or_high (byte : UInt8) :
    Nibble.low.extract byte ||| Nibble.high.extract byte <<< 4 = byte := by
  refine eq_iff_isHigh.mpr fun line hline => ?_
  rw [isHigh_or, isHigh_shiftLeft line _ 4 (by decide), isHigh_extract, isHigh_extract, decide_eq_true hline,
    Bool.true_and]
  show (decide (line < 4) && isHigh (0 + line) byte ||
    (decide (4 ≤ line) && (decide (line - 4 < 4) && isHigh (4 + (line - 4)) byte))) = _
  by_cases hlow : line < 4
  · rw [decide_eq_true hlow, decide_eq_false (Nat.not_le.mpr hlow), Bool.true_and, Bool.false_and,
      Bool.or_false, Nat.zero_add]
  · have hhigh : 4 ≤ line := Nat.le_of_not_lt hlow
    have hrest : line - 4 < 4 := by omega
    rw [decide_eq_false hlow, decide_eq_true hhigh, decide_eq_true hrest, Bool.false_and, Bool.false_or,
      Bool.true_and, Bool.true_and, Nat.add_sub_cancel' hhigh]

/-- **Pulling a line low or letting go of it** sets the level of that line, and of no other. -/
theorem isHigh_pullLow (byte : UInt8) {bit : UInt8} (hbit : bit.toNat < 8) (low : Bool) (line : Nat) :
    isHigh line (pullLow byte bit low) = if bit.toNat = line then !low else isHigh line byte := by
  unfold pullLow
  cases low with
  | true =>
    rw [if_pos rfl, isHigh_and, isHigh_not, isHigh_one_shiftLeft line bit hbit]
    by_cases hsame : bit.toNat = line
    · rw [if_pos hsame, decide_eq_true hsame, Bool.not_true, Bool.and_false, Bool.and_false]
    · rw [if_neg hsame, decide_eq_false hsame, Bool.not_false, Bool.and_true]
      by_cases hline : line < 8
      · rw [decide_eq_true hline, Bool.and_true]
      · rw [isHigh_of_le (Nat.le_of_not_lt hline), Bool.false_and]
  | false =>
    rw [if_neg Bool.false_ne_true, isHigh_or, isHigh_one_shiftLeft line bit hbit]
    by_cases hsame : bit.toNat = line
    · rw [if_pos hsame, decide_eq_true hsame, Bool.or_true, Bool.not_false]
    · rw [if_neg hsame, decide_eq_false hsame, Bool.or_false]

/-! ## Buttons -/

namespace Button

/-- The line that a button pulls low. -/
def line (button : Button) : Nat := button.location.2.toNat

theorem line_lt (button : Button) : button.line < 8 := by
  cases button <;> decide

/-- No two buttons have the same line of the same byte. -/
theorem place_injective {button other : Button} (hgroup : button.location.1 = other.location.1)
    (hline : button.line = other.line) : button = other := by
  revert hgroup hline
  cases button <;> cases other <;> decide

end Button

namespace Inputs

/-- **A button has a line of its own**, and pressing it or letting go of it sets that line and no other. -/
theorem isHigh_press (i : Inputs) (button : Button) (pressed : Bool) (g : InputGroup) (line : Nat) :
    isHigh line ((i.press button pressed).get g) =
      if button.location.1 = g ∧ button.line = line then !pressed else isHigh line (i.get g) := by
  unfold press
  rw [get_set]
  by_cases hgroup : button.location.1 = g
  · rw [if_pos hgroup, isHigh_pullLow _ button.line_lt, hgroup]
    simp only [true_and]
    rfl
  · rw [if_neg hgroup, if_neg fun h => hgroup h.1]

/-- A button is pressed if its line is low. -/
theorem isPressed_eq (i : Inputs) (button : Button) :
    i.isPressed button = !isHigh button.line (i.get button.location.1) := by
  have hmask : (1 <<< button.location.2 : UInt8).toNat = 2 ^ button.line := by
    cases button <;> decide
  exact decide_mask_eq_zero button.line hmask _

/-- **Pressing a button concerns that button alone.** -/
theorem isPressed_press (i : Inputs) (button other : Button) (pressed : Bool) :
    (i.press button pressed).isPressed other = if button = other then pressed else i.isPressed other := by
  rw [isPressed_eq, isHigh_press, isPressed_eq]
  by_cases hsame : button = other
  · subst hsame
    rw [if_pos ⟨rfl, rfl⟩, if_pos rfl, Bool.not_not]
  · rw [if_neg fun h => hsame (Button.place_injective h.1 h.2), if_neg hsame]

end Inputs

/-! ## What a history does to the lines -/

/-- The level that an operation gives to a line of an input byte, if it gives it any. -/
def Operation.inputLevel? (g : InputGroup) (line : Nat) : Operation → Option Bool
  | .setInput h value => if h = g then some (isHigh line value) else none
  | .press button pressed =>
    if button.location.1 = g ∧ button.line = line then some (!pressed) else none
  | _ => none

/-- The level that a list of operations gave to a line last, if it gave it any. -/
def lastInputLevel (g : InputGroup) (line : Nat) (ops : List Operation) : Option Bool :=
  ops.reverse.findSome? (Operation.inputLevel? g line)

theorem lastInputLevel_cons (g : InputGroup) (line : Nat) (op : Operation) (ops : List Operation) :
    lastInputLevel g line (op :: ops) = (lastInputLevel g line ops).or (op.inputLevel? g line) := by
  simp [lastInputLevel, List.findSome?_append]

/-- The level of a line before anything is done: no button is pressed, and the switches are set as given. -/
def initialLevel (dipA dipB : UInt8) (line : Nat) : InputGroup → Bool
  | .joysticks | .buttons => true
  | .dipA => isHigh line dipA
  | .dipB => isHigh line dipB

theorem isHigh_atRest (dipA dipB : UInt8) (g : InputGroup) {line : Nat} (hline : line < 8) :
    isHigh line ((Inputs.atRest dipA dipB).get g) = initialLevel dipA dipB line g := by
  have hones : isHigh line 0xFF = true := by
    unfold isHigh
    exact (Nat.testBit_two_pow_sub_one 8 line).trans (decide_eq_true hline)
  cases g with
  | joysticks | buttons => exact hones
  | dipA | dipB => rfl

theorem IoBank.inputs_pulse (a : IoBank) (slot : Nat) : (a.pulse slot).2.inputs = a.inputs := by
  unfold pulse
  split <;> rfl

namespace Board

variable {S : Type} [SoundChip S]

omit [SoundChip S] in
theorem inputs_vblank (b : Board S) : b.vblank.io.inputs = b.io.inputs := by
  show ((b.io.pulse 0).2.pulse 1).2.inputs = b.io.inputs
  rw [IoBank.inputs_pulse, IoBank.inputs_pulse]

theorem inputs_machineReset (b : Board S) : b.machineReset.io.inputs = b.io.inputs := by
  obtain ⟨j, hj⟩ := b.machineReset_eq
  rw [hj]
  rfl

theorem inputs_write (b : Board S) (p : Processor) (a : UInt16) (data : UInt8) :
    (b.write p a data).io.inputs = b.io.inputs := by
  obtain ⟨j, hj⟩ := b.write_eq p a data
  rw [hj]
  cases AddressMap.decode p a .write with
  | ram _ | rom _ | unmapped => rfl
  | io slot register =>
    dsimp only
    rw [IoBank.write_fst]
  | watchdog =>
    obtain ⟨_, _, hserviced⟩ := b.serviceWatchdog_changes p
    dsimp only
    rw [hserviced]
  | control s =>
    obtain ⟨_, io, _, _, _, _, _, hb, hio⟩ := b.control_changes p s data
    dsimp only
    rw [hb]
    rcases hio with rfl | ⟨asserted, rfl⟩ <;> rfl

/-- **One operation leaves on a line the level that it gives to it**, or the level that was there. -/
theorem level_perform (b : Board S) (op : Operation) (g : InputGroup) (line : Nat) :
    isHigh line ((b.perform op).2.io.inputs.get g) =
      (op.inputLevel? g line).getD (isHigh line (b.io.inputs.get g)) := by
  cases op with
  | setInput h value =>
    show isHigh line ((b.io.inputs.set h value).get g) = (if h = g then some (isHigh line value) else none).getD _
    rw [Inputs.get_set]
    split <;> rfl
  | press button pressed =>
    show isHigh line ((b.io.inputs.press button pressed).get g) =
      (if button.location.1 = g ∧ button.line = line then some (!pressed) else none).getD _
    rw [Inputs.isHigh_press]
    split <;> rfl
  | write p a data => exact congrArg (fun i : Inputs => isHigh line (i.get g)) (b.inputs_write p a data)
  | machineReset => exact congrArg (fun i : Inputs => isHigh line (i.get g)) b.inputs_machineReset
  | frameSync =>
    have hinputs : b.frameSync.2.io.inputs = b.io.inputs := by
      rw [frameSync_eq]
      cases b.expired with
      | none => exact b.inputs_vblank
      | some p => exact (inputs_machineReset _).trans b.inputs_vblank
    exact congrArg (fun i : Inputs => isHigh line (i.get g)) hinputs
  | read p a =>
    obtain ⟨_, _, _, _, hj⟩ := b.read_changes p a
    show isHigh line ((b.read p a).2.io.inputs.get g) = _
    rw [hj]
    rfl
  | configureSlot slot spec w =>
    obtain ⟨io, j, hb, hio⟩ := b.perform_configureSlot slot spec w
    rw [hb]
    rcases hio with rfl | ⟨io', hconfigure, rfl⟩
    · rfl
    · obtain ⟨-, _, rfl⟩ := IoBank.configure_eq_ok hconfigure
      rfl
  | loadRom p image =>
    obtain ⟨roms, loaded, hb⟩ := b.perform_loadRom p image
    rw [hb]
    rfl
  | beginFrame | takeReset _ | notePc _ _ | takeEvents | unloadRom _ | snapshot _ => rfl

/-- **A history leaves on a line the level that it gave to it last**, or the level that was there at first. -/
theorem level_after (b : Board S) (ops : List Operation) (g : InputGroup) (line : Nat) :
    isHigh line ((b.after ops).io.inputs.get g) =
      (lastInputLevel g line ops).getD (isHigh line (b.io.inputs.get g)) := by
  induction ops generalizing b with
  | nil => rfl
  | cons op ops ih =>
    -- a level that is given later hides the one that this operation gives
    show isHigh line (((b.perform op).2.after ops).io.inputs.get g) = _
    rw [ih, level_perform, lastInputLevel_cons]
    cases lastInputLevel g line ops <;> rfl

end Board

/-! ## What main reads -/

/-- Main reads this half of this input byte at an address: the address is one of a slot, and the port that its two
lowest lines select is wired to that half. -/
def IoLayout.Shows (layout : IoLayout) (a : UInt16) (g : InputGroup) (n : Nibble) : Prop :=
  0x6800 ≤ a ∧ a ≤ 0x6FFF ∧ ∃ slot : Fin 2, a.toNat / 16 % 4 = slot.val ∧
    ((layout.slots.get slot).kind.wiring layout.lamps).reads.get (Fin.ofNat 4 a.toNat) = .input g n

/-- The job of the chip that shows an input byte. -/
def InputGroup.kind : InputGroup → ChipKind
  | .joysticks | .buttons => .playerCoin
  | .dipA | .dipB => .dipSwitch

namespace IoLayout

/-- Half of a byte is read at every address of a slot. -/
theorem exists_shows (layout : IoLayout) {a : UInt16} (hlow : 0x6800 ≤ a) (hhigh : a ≤ 0x6FFF)
    (hslot : a.toNat / 16 % 4 < 2) : ∃ g n, layout.Shows a g n := by
  have hbound (kind : ChipKind) (port : Fin 4) :
      ((kind.wiring layout.lamps).reads.get port).isBound = true := by
    revert port
    cases kind <;> cases layout.lamps <;> decide
  have hport := hbound (layout.slots.get ⟨a.toNat / 16 % 4, hslot⟩).kind (Fin.ofNat 4 a.toNat)
  cases hwired : ((layout.slots.get ⟨a.toNat / 16 % 4, hslot⟩).kind.wiring layout.lamps).reads.get
      (Fin.ofNat 4 a.toNat) with
  | unbound =>
    rw [hwired] at hport
    cases hport
  | input g n => exact ⟨g, n, hlow, hhigh, _, rfl, hwired⟩

/-- **Each half of each byte is read somewhere**, if there is a chip for it. -/
theorem exists_shows_of_kind (layout : IoLayout) (g : InputGroup) (n : Nibble)
    (h : ∃ slot, (layout.slots.get slot).kind = g.kind) : ∃ a, layout.Shows a g n := by
  have hport : ∃ port : Fin 4, (g.kind.wiring layout.lamps).reads.get port = .input g n := by
    cases g <;> cases n <;> cases layout.lamps <;> decide
  obtain ⟨slot, hkind⟩ := h
  obtain ⟨port, hwired⟩ := hport
  have haddress (slot : Fin 2) (port : Fin 4) :
      let a : UInt16 := UInt16.ofNat (0x6800 + 16 * slot.val + port.val)
      0x6800 ≤ a ∧ a ≤ 0x6FFF ∧ a.toNat / 16 % 4 = slot.val ∧ Fin.ofNat 4 a.toNat = port := by
    revert slot port
    decide
  obtain ⟨hlow, hhigh, hslot, hregister⟩ := haddress slot port
  exact ⟨_, hlow, hhigh, slot, hslot, by rw [hregister, hkind, hwired]⟩

end IoLayout

namespace Board

variable {S : Type} [SoundChip S]

/-- **What main reads of the chips**, given the levels of the lines of the input bytes. -/
structure PortsShow (b : Board S) (layout : IoLayout) (level : InputGroup → Nat → Bool) : Prop where
  /-- The input bytes have these levels. -/
  inputs : ∀ g line, line < 8 → isHigh line (b.io.inputs.get g) = level g line
  /-- While the chips run, an address of a slot reads half of an input byte: four of the levels, and nothing above
  them. -/
  half : b.controls.chipsHeld = false → ∀ a g n, layout.Shows a g n →
    (b.read .main a).1 = n.extract (b.io.inputs.get g) ∧
      ∀ line, isHigh line (b.read .main a).1 = (decide (line < 4) && level g (n.first + line))
  /-- While they are held nothing is read, and never from a slot that there is not. -/
  idle : ∀ a, 0x6800 ≤ a → a ≤ 0x6FFF → (b.controls.chipsHeld = true ∨ 2 ≤ a.toNat / 16 % 4) →
    (b.read .main a).1 = 0x0F
  /-- While they run, two reads one after the other give a whole byte. -/
  whole : b.controls.chipsHeld = false → ∀ g low high, layout.Shows low g .low → layout.Shows high g .high →
    (b.read .main low).1 ||| ((b.read .main low).2.read .main high).1 <<< 4 = b.io.inputs.get g
  /-- While they run, a button is pressed if a zero is read for its line. -/
  pressed : b.controls.chipsHeld = false → ∀ button a n line,
    layout.Shows a button.location.1 n → n.first + line = button.line → line < 4 →
    (b.io.inputs.isPressed button = true ↔ isHigh line (b.read .main a).1 = false)

section Read

variable {b : Board S} {layout : IoLayout}

/-- A chip that is not in reset shows half of an input byte. -/
theorem read_shows (hwiring : b.io.wiring = layout.wiring) (hfollows : b.io.Follows b.controls.chipsHeld)
    (hruns : b.controls.chipsHeld = false) {a : UInt16} {g : InputGroup} {n : Nibble}
    (h : layout.Shows a g n) : (b.read .main a).1 = n.extract (b.io.inputs.get g) := by
  obtain ⟨hlow, hhigh, slot, hslot, hport⟩ := h
  have hwired : b.WiredAs slot ((layout.slots.get slot).kind.wiring layout.lamps) := by
    apply wiredAs_of_wiring
    rw [hwiring]
    exact Pair.get_map _ _ _
  have hdecode : AddressMap.decode .main a .read =
      .io (slot.castLE (by decide)) (AddressMap.registerOf a) :=
    AddressMap.decode_io_iff.mpr ⟨rfl, hlow, hhigh, Fin.ext hslot, rfl⟩
  have hreset : b.io.isReset slot = false := by
    unfold IoBank.isReset
    rw [b.io.slot?_of_lt slot.isLt]
    have hfollow := (hfollows slot).1
    rw [IoBank.get_chipStates] at hfollow
    exact hfollow.trans hruns
  have hregister : Fin.ofNat 4 (AddressMap.registerOf a).val = Fin.ofNat 4 a.toNat :=
    Fin.ext (Nat.mod_mod_of_dvd a.toNat (by decide : 4 ∣ 16))
  rw [hwired.read .main a _ hdecode, hreset, hregister, hport]
  rfl

omit [SoundChip S] in
/-- A chip in reset reads as nothing does, and so does a slot that there is not. -/
theorem read_idle (hfollows : b.io.Follows b.controls.chipsHeld) {a : UInt16} (hlow : 0x6800 ≤ a)
    (hhigh : a ≤ 0x6FFF) (h : b.controls.chipsHeld = true ∨ 2 ≤ a.toNat / 16 % 4) :
    (b.read .main a).1 = 0x0F := by
  have hread : (b.read .main a).1 =
      (b.io.read (AddressMap.slotOf a).val (AddressMap.registerOf a).val).1 := by
    unfold read
    rw [AddressMap.decode_io_iff.mpr ⟨rfl, hlow, hhigh, rfl, rfl⟩]
  rw [hread]
  unfold IoBank.read
  by_cases hslot : (AddressMap.slotOf a).val < 2
  · -- the slot is there, so the chips are held, and its chip is in reset
    have hheld : b.controls.chipsHeld = true := h.resolve_right (Nat.not_le.mpr hslot)
    have hfollow := (hfollows ⟨_, hslot⟩).1
    rw [IoBank.get_chipStates, hheld] at hfollow
    rw [b.io.slot?_of_lt hslot]
    dsimp only
    unfold IoChip.read
    rw [if_pos hfollow]
    rfl
  · rw [b.io.slot?_of_le (Nat.le_of_not_lt hslot)]
    rfl

/-- **What main reads follows from the levels of the lines**, on a board whose chips are wired for a layout and
are at the level of their reset line. -/
theorem portsShow_of_level {level : InputGroup → Nat → Bool} (hwiring : b.io.wiring = layout.wiring)
    (hfollows : b.io.Follows b.controls.chipsHeld)
    (hlevel : ∀ g line, line < 8 → isHigh line (b.io.inputs.get g) = level g line) :
    b.PortsShow layout level where
  inputs := hlevel
  half hruns a g n h := by
    have hread := read_shows hwiring hfollows hruns h
    refine ⟨hread, fun line => ?_⟩
    rw [hread, isHigh_extract]
    by_cases hline : line < 4
    · rw [hlevel g _ (by cases n <;> simp only [Nibble.first] <;> omega)]
    · rw [decide_eq_false hline, Bool.false_and, Bool.false_and]
  idle a hlow hhigh h := read_idle hfollows hlow hhigh h
  whole hruns g low high hlow hhigh := by
    obtain ⟨_, _, _, _, hafter⟩ := b.read_changes .main low
    have hsecond : ((b.read .main low).2.read .main high).1 = Nibble.high.extract (b.io.inputs.get g) := by
      rw [hafter]
      refine read_shows ?_ ?_ ?_ hhigh
      · exact hwiring
      · exact hfollows
      · exact hruns
    rw [read_shows hwiring hfollows hruns hlow, hsecond, extract_low_or_high]
  pressed hruns button a n line h hplace hline := by
    rw [read_shows hwiring hfollows hruns h, isHigh_extract, decide_eq_true hline, Bool.true_and, hplace,
      Inputs.isPressed_eq, Bool.not_eq_true']

end Read

/-- **Main reads what the host has done to the inputs.** A board is switched on, with any chips in its slots, and
anything is done to it, short of restoring a saved state and of putting another chip into a slot. Then each
line of an input byte has the level that the last press, release or setting of the byte gave it, and if
there was none, it is high, or as its switch was set at first. Pressing a button or letting go of it
changes its line alone, and so no other button. What main reads at the addresses of the chips follows from
these levels alone (`PortsShow`). Half of a byte is read at every address of a slot, and each half of
each byte at some address, if the chips for both jobs are fitted. -/
theorem ports_show_inputs (layout : IoLayout) (dipA dipB : UInt8) (frames : UInt32) (sound : S)
    (ops : List Operation) :
    ∃ b, powerOn layout (.atRest dipA dipB) frames sound = .ok b ∧
      ((∀ e ∈ b.history ops, e.1.rewires e.2 = false) →
        (b.after ops).PortsShow layout
            (fun g line => (lastInputLevel g line ops).getD (initialLevel dipA dipB line g)) ∧
          ∀ button pressed,
            let next := ((b.after ops).perform (.press button pressed)).2
            (∀ g line, isHigh line (next.io.inputs.get g) =
              if button.location.1 = g ∧ button.line = line then !pressed
              else isHigh line ((b.after ops).io.inputs.get g)) ∧
            ∀ other, next.io.inputs.isPressed other =
              if button = other then pressed else (b.after ops).io.inputs.isPressed other) ∧
      (∀ a, 0x6800 ≤ a → a ≤ 0x6FFF → a.toNat / 16 % 4 < 2 → ∃ g n, layout.Shows a g n) ∧
      ((∀ kind, ∃ slot, (layout.slots.get slot).kind = kind) → ∀ g n, ∃ a, layout.Shows a g n) := by
  refine ⟨_, powerOn_eq layout _ frames sound, ?_, ?_, ?_⟩
  · intro hstock
    have hwiring := wiring_after ops hstock
    have hconsistent := (consistent_stock layout (.atRest dipA dipB) frames sound).after ops
    refine ⟨portsShow_of_level hwiring hconsistent.chips_follow ?_, ?_⟩
    · intro g line hline
      rw [level_after]
      exact congrArg _ (isHigh_atRest dipA dipB g hline)
    · intro button pressed next
      exact ⟨Inputs.isHigh_press _ button pressed, fun other => Inputs.isPressed_press _ button other pressed⟩
  · intro a hlow hhigh hslot
    exact layout.exists_shows hlow hhigh hslot
  · intro hfitted g n
    exact layout.exists_shows_of_kind g n (hfitted g.kind)

/-- The chip for the players sits in the second slot, and lamps are not fitted. Coins and fire buttons come and go,
the joysticks are set, and a switch is turned while the machine is reset. The coin is read as a low line until
the chips are held. -/
theorem ports_show_inputs_coin :
    let layout : IoLayout := ⟨⟨⟨.dipSwitch, .part58⟩, ⟨.playerCoin, .part56⟩⟩, false⟩
    let ops : List Operation :=
      [.press .coin1 true, .press .p1Fire true, .setInput .joysticks 0xA7, .machineReset, .setInput .dipB 0x3C,
        .press .p1Fire false, .write .main 0x9000 0, .press .p2Up true, .frameSync]
    ∃ b, powerOn layout (.atRest 0x12 0x34) 8 SoundRegisters.silent = .ok b ∧
      (∀ e ∈ b.history ops, e.1.rewires e.2 = false) ∧
      (b.after ops).controls.chipsHeld = false ∧
      ((b.after ops).read .main 0x6814).1 = 0x0E ∧ (b.after ops).io.inputs.isPressed .coin1 = true ∧
      ((b.after ops).read .main 0x6811).1 ||| (((b.after ops).read .main 0x6811).2.read .main 0x6FD2).1 <<< 4 =
        0xA7 ∧
      ((b.after ops).read .main 0x6820).1 = 0x0F ∧
      (∀ kind, ∃ slot, (layout.slots.get slot).kind = kind) ∧ ∃ a, layout.Shows a .dipA .high := by
  intro layout ops
  obtain ⟨b, hb, hshow, -, hsomewhere⟩ :=
    ports_show_inputs layout 0x12 0x34 8 SoundRegisters.silent ops
  rw [powerOn_eq] at hb
  cases hb
  have hstock : ∀ e ∈ (stock layout (.atRest 0x12 0x34) 8 SoundRegisters.silent).history ops,
      e.1.rewires e.2 = false := by decide +kernel
  obtain ⟨hports, -⟩ := hshow hstock
  have hruns : ((stock layout (.atRest 0x12 0x34) 8 SoundRegisters.silent).after ops).controls.chipsHeld =
      false := by decide +kernel
  have hcoin : layout.Shows 0x6814 .buttons .high := ⟨by decide, by decide, 1, by decide, by decide⟩
  have hfirst : layout.Shows 0x6811 .joysticks .low := ⟨by decide, by decide, 1, by decide, by decide⟩
  have hsecond : layout.Shows 0x6FD2 .joysticks .high := ⟨by decide, by decide, 1, by decide, by decide⟩
  have hfitted : ∀ kind, ∃ slot, (layout.slots.get slot).kind = kind := by
    intro kind
    cases kind with
    | playerCoin => exact ⟨1, rfl⟩
    | dipSwitch => exact ⟨0, rfl⟩
  refine ⟨_, powerOn_eq _ _ _ _, hstock, hruns, ?_, ?_, ?_, ?_, hfitted, hsomewhere hfitted .dipA .high⟩
  · rw [(hports.half hruns _ _ _ hcoin).1]
    decide +kernel
  · exact (hports.pressed hruns .coin1 _ _ 0 hcoin rfl (by decide)).mpr (by decide +kernel)
  · exact (hports.whole hruns _ _ _ hfirst hsecond).trans (by decide +kernel)
  · exact hports.idle 0x6820 (by decide) (by decide) (.inr (by decide))

end Board

end Arcade
