import Arcade.Proofs.Board.Alike
import Arcade.Proofs.Board.Coherence

/-!
# `Arcade.Proofs.Board.DataBus` — which writes look at the data

A control register takes what it is switched to from the address. So the data of a write to it does not
matter, and neither does that of a write to a watchdog, to a program, to a slot that is not fitted, or to
nothing at all. Runs that differ only in such data cannot be told apart, however long they are, although
these writes go the same way as those to the memories, which do take the data.

## Contents
- `AddressMap.ignoresData`, `Operation.SameButData`.
- `write_of_ignoresData`: such a write does the same whatever the data.
- `starfield_write`, `getElem_starfield_write`: what a write leaves in the star field registers.
- `data_ignored_or_stored`.
-/

namespace Arcade

open AddressMap

/-- Whether what a processor writes to at an address takes no notice of the data. The memories, the star
field and the two chips do. -/
def AddressMap.ignoresData (p : Processor) (a : UInt16) : Bool :=
  match decode p a .write with
  | .ram _ | .control (.starfield _) => false
  | .io slot _ => decide (2 ≤ slot.val)
  | .control (.interrupt _ _) | .control (.secondaries _) | .control (.ioChips _) => true
  | .watchdog | .rom _ | .unmapped => true

/-- The same operation, except that a write may have other data where the data is ignored. -/
inductive Operation.SameButData : Operation → Operation → Prop
  | write {p : Processor} {a : UInt16} (data data' : UInt8) (h : ignoresData p a = true) :
      SameButData (.write p a data) (.write p a data')
  | same (op : Operation) : SameButData op op

/-- Nothing is connected to a slot that is not fitted. -/
theorem IoBank.write_of_le (a : IoBank) {slot : Nat} (h : 2 ≤ slot) (register : Nat) (data : UInt8) :
    (a.write slot register data).1 = a := by
  unfold write
  rw [slot?_of_le a h]

namespace Board

variable {S : Type} [SoundChip S]

/-- **Where the data is ignored, a write does the same whatever the data.** The report of it quotes them. -/
theorem write_of_ignoresData (b : Board S) {p : Processor} {a : UInt16} (data data' : UInt8)
    (h : ignoresData p a = true) : (b.write p a data).Alike (b.write p a data') := by
  unfold ignoresData at h
  obtain ⟨j, hj⟩ := b.write_eq p a data
  obtain ⟨k, hk⟩ := b.write_eq p a data'
  rw [hj, hk]
  cases hd : decode p a .write with
  | ram cell => rw [hd] at h; cases h
  | io slot register =>
    rw [hd] at h
    have hslot : 2 ≤ slot.val := of_decide_eq_true h
    dsimp only
    rw [IoBank.write_of_le b.io hslot, IoBank.write_of_le b.io hslot]
    exact .of_journal rfl
  | control s =>
    cases s with
    | starfield register => rw [hd] at h; cases h
    | interrupt _ _ | secondaries _ | ioChips _ => exact .refl _
  | rom _ | unmapped => exact .of_journal rfl
  | watchdog => exact .refl _

end Board

/-- Operations that differ in data that is ignored do the same. -/
theorem Operation.SameButData.equivalent {op op' : Operation} (h : op.SameButData op') :
    op.Equivalent op' := by
  intro S _ b
  cases h with
  | write data data' hignored => exact ⟨rfl, b.write_of_ignoresData data data' hignored⟩
  | same => exact Equivalent.refl op b

namespace Board

variable {S : Type} [SoundChip S]

/-! ## Data that is stored -/

/-- Among the control registers the star field alone takes the data. -/
theorem starfield_control (b : Board S) (p : Processor) (s : Switch) (data : UInt8) :
    (b.control p s data).starfield =
      match s with
      | .starfield register => b.starfield.set register.val data register.isLt
      | _ => b.starfield := by
  obtain ⟨j, hj⟩ := b.control_eq p s data
  cases s with
  | interrupt _ _ | ioChips _ => rw [hj]
  | secondaries release =>
    show (b.holdSecondaries (!release)).starfield = b.starfield
    rw [holdSecondaries_eq]
  | starfield register => rfl

theorem starfield_write (b : Board S) (p : Processor) (a : UInt16) (data : UInt8) :
    (b.write p a data).starfield =
      match decode p a .write with
      | .control (.starfield register) => b.starfield.set register.val data register.isLt
      | _ => b.starfield := by
  obtain ⟨j, hj⟩ := b.write_eq p a data
  rw [hj]
  cases decode p a .write with
  | ram _ | rom _ | io _ _ | unmapped => rfl
  | watchdog =>
    obtain ⟨main, sound, hserviced⟩ := b.serviceWatchdog_changes p
    simp only [hserviced]
  | control s =>
    have hcontrol := b.starfield_control p s data
    cases s with
    | interrupt _ _ | secondaries _ | ioChips _ | starfield _ => exact hcontrol

/-- A write leaves in a star field register the byte written, if it leads to the register, and otherwise
what was there. -/
theorem getElem_starfield_write (b : Board S) (p : Processor) (a : UInt16) (data : UInt8) (r : Fin 4) :
    (b.write p a data).starfield[r] =
      if decode p a .write = .control (.starfield r) then data else b.starfield[r] := by
  have hwrite := b.starfield_write p a data
  by_cases hd : decode p a .write = .control (.starfield r)
  · rw [hd] at hwrite
    rw [if_pos hd, hwrite]
    exact Vector.getElem_set_self r.isLt
  · rw [if_neg hd, hwrite]
    split
    · next q hq =>
      have hne : q.val ≠ r.val := by
        intro he
        exact hd (by rw [hq, Fin.ext he])
      exact Vector.getElem_set_ne q.isLt r.isLt hne
    · rfl

/-- **Data is ignored for good, or stored as it is.** Take any board and two runs on it, with saved states
put into it or not, which differ only in the data of writes to interrupts, reset lines, watchdogs, programs,
slots that are not fitted, and addresses that lead nowhere. Then

- both give the same back: bytes, reports of frames, events, whatever was asked for;
- in the end the saved states are the same, the sound generators (a recorder of all calls, say), and the
  events still queued.

A write that leads to a cell of a memory, or to a star field register, leaves exactly its data there, and no
other write changes the cell or the register. -/
theorem data_ignored_or_stored (b : Board S) {run run' : List Treatment}
    (h : List.Forall₂ (Treatment.Related Operation.SameButData) run run') :
    (b.responses run' = b.responses run ∧
      (b.treated run').state = (b.treated run).state ∧
      (b.treated run').sound = (b.treated run).sound ∧
      (b.treated run').io.events = (b.treated run).io.events) ∧
    ∀ p a data,
      (∀ cell, (b.write p a data).memory.read cell =
        if decode p a .write = .ram cell then data else b.memory.read cell) ∧
      ∀ r : Fin 4, (b.write p a data).starfield[r] =
        if decode p a .write = .control (.starfield r) then data else b.starfield[r] := by
  constructor
  · exact related_indistinguishable (fun _ _ => Operation.SameButData.equivalent) h b
  · intro p a data
    exact ⟨b.read_memory_write p a data, b.getElem_starfield_write p a data⟩

/-- The data of seven writes is different: to the interrupts of main and sub, to both reset lines, to the
watchdog of sound, to a program and to a slot that is not fitted. A frame follows, in which the interrupts
that were enabled are taken. -/
theorem data_ignored_or_stored_frame :
    let layout : IoLayout := ⟨⟨⟨.playerCoin, .part56⟩, ⟨.dipSwitch, .part58⟩⟩, true⟩
    let b := stock layout (.atRest 0xFF 0xF8) 8 (Recorded.fitted SoundRegisters.silent)
    let run (data : UInt8) : List Treatment :=
      [.operation (.write .main 0x7000 data), .operation (.write .sub 0x6001 data),
        .operation (.write .main 0x8000 data), .operation (.write .main 0x9800 data),
        .operation (.write .sound 0x2000 data), .operation (.write .main 0xC000 data),
        .operation (.write .main 0x6825 data), .operation (.write .main 0xA002 0x35),
        .operation .frameSync]
    List.Forall₂ (Treatment.Related Operation.SameButData) (run 0x00) (run 0xFF) ∧
      b.responses (run 0xFF) = b.responses (run 0x00) ∧
      (b.treated (run 0xFF)).state = (b.treated (run 0x00)).state ∧
      (b.treated (run 0x00)).starfield.toList = [0, 0, 0x35, 0] ∧
      (b.treated (run 0x00)).sound.calls = [.enable true] := by
  intro layout b run
  have hrun : List.Forall₂ (Treatment.Related Operation.SameButData) (run 0x00) (run 0xFF) :=
    .cons (.operation (.write _ _ (by decide))) <| .cons (.operation (.write _ _ (by decide))) <|
    .cons (.operation (.write _ _ (by decide))) <| .cons (.operation (.write _ _ (by decide))) <|
    .cons (.operation (.write _ _ (by decide))) <| .cons (.operation (.write _ _ (by decide))) <|
    .cons (.operation (.write _ _ (by decide))) <| .cons (.operation (.same _)) <|
    .cons (.operation (.same _)) .nil
  obtain ⟨⟨hresponses, hstate, -, -⟩, -⟩ := data_ignored_or_stored b hrun
  refine ⟨hrun, hresponses, hstate, ?_, ?_⟩
  · decide +kernel
  · decide +kernel

end Board

end Arcade
