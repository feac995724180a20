import Arcade.Proofs.Board.Alike
import Arcade.Proofs.Memory.Windows

/-!
# `Arcade.Proofs.Board.Aliases` — lines that are not decoded

Most windows of the address maps leave some address lines out, so one and the same thing is found at many
addresses. Which of them is used makes no difference, now or later: runs that differ only on lines that are
not decoded give the same back, tell the sound generator the same, and leave the board in the same state.
For memories and programs there are no other aliases.

Only the reports tell the addresses apart, since they quote them.

## Contents
- `Operation.Aliases`: the same operation, up to lines that are not decoded.
- `read_of_decode_eq`, `write_of_decode_eq`: an access is what its target makes of it.
- `aliases_indistinguishable`.
-/

namespace Arcade

open AddressMap

/-- The same operation, except that an access may have other levels on the lines that are not decoded where
it goes. -/
inductive Operation.Aliases : Operation → Operation → Prop
  | read {p : Processor} {a a' : UInt16} (h : (ignoredLines p .read a).SameBut a a') :
      Aliases (.read p a) (.read p a')
  | write {p : Processor} {a a' : UInt16} (data : UInt8) (h : (ignoredLines p .write a).SameBut a a') :
      Aliases (.write p a data) (.write p a' data)
  | same (op : Operation) : Aliases op op

namespace Board

variable {S : Type} {p : Processor} {a a' : UInt16}

/-- A read at another address of the same target is reported otherwise, and that is all. -/
theorem read_of_decode_eq (b : Board S) (h : decode p a' .read = decode p a .read) :
    (b.read p a).1 = (b.read p a').1 ∧ (b.read p a).2.Alike (b.read p a').2 := by
  obtain ⟨j, hj⟩ := b.read_snd p a
  obtain ⟨k, hk⟩ := b.read_snd p a'
  constructor
  · unfold read
    rw [h]
    cases decode p a .read <;> rfl
  · refine .of_journal (j := k) ?_
    rw [hk, hj, h]
    cases decode p a .read <;> rfl

variable [SoundChip S]

/-- A write at another address of the same target is reported otherwise, and that is all. -/
theorem write_of_decode_eq (b : Board S) (data : UInt8) (h : decode p a' .write = decode p a .write) :
    (b.write p a data).Alike (b.write p a' data) := by
  unfold write
  rw [h]
  cases decode p a .write with
  | rom offset => exact .of_journal rfl
  | unmapped => exact .of_journal rfl
  | ram _ | io _ _ | watchdog | control _ => exact .refl _

end Board

/-- Operations that differ on lines that are not decoded do the same. -/
theorem Operation.Aliases.equivalent {op op' : Operation} (h : op.Aliases op') : op.Equivalent op' := by
  intro S _ b
  cases h with
  | read hlines =>
    obtain ⟨hanswer, hafter⟩ := b.read_of_decode_eq (decode_eq_of_sameBut hlines)
    exact ⟨congrArg Answer.byte hanswer, hafter⟩
  | write data hlines => exact ⟨rfl, b.write_of_decode_eq data (decode_eq_of_sameBut hlines)⟩
  | same => exact Equivalent.refl op b

namespace Board

variable {S : Type} [SoundChip S]

/-- **Lines that are not decoded do not matter, and for memories and programs all others do.** Take any
board and two runs on it, with saved states put into it or not, which differ only in that accesses have
other levels on lines that are not decoded where they go. Then

- both give the same back: bytes, reports of frames, events, whatever was asked for;
- in the end the saved states are the same, the sound generators (a recorder of all calls, say), and the
  events still queued.

Conversely, addresses at which a processor reaches the same cell of a memory, reading or writing, and
addresses at which it reads the same byte of its program, differ on such lines alone. -/
theorem aliases_indistinguishable (b : Board S) {run run' : List Treatment}
    (h : List.Forall₂ (Treatment.Related Operation.Aliases) run run') :
    (b.responses run' = b.responses run ∧
      (b.treated run').state = (b.treated run).state ∧
      (b.treated run').sound = (b.treated run).sound ∧
      (b.treated run').io.events = (b.treated run).io.events) ∧
    (∀ p access access' a a' cell, decode p a access = .ram cell → decode p a' access' = .ram cell →
      (ignoredLines p access a).SameBut a a') ∧
    ∀ p a a' offset, decode p a .read = .rom offset → decode p a' .read = .rom offset →
      (ignoredLines p .read a).SameBut a a' := by
  refine ⟨?_, ?_, ?_⟩
  · exact related_indistinguishable (fun _ _ => Operation.Aliases.equivalent) h b
  · intro p access access' a a' cell hd hd'
    exact sameBut_of_ram hd hd'
  · intro p a a' offset hd hd'
    exact sameBut_of_rom hd hd'

/-- Every processor uses other addresses: main releases the chips and the other processors, lights a lamp,
writes a register of the sound generator and reads a chip and its program; sub and sound enable their
interrupts, and sound services its watchdog, before and after a frame. -/
theorem aliases_indistinguishable_everywhere :
    let layout : IoLayout := ⟨⟨⟨.playerCoin, .part56⟩, ⟨.dipSwitch, .part58⟩⟩, true⟩
    let b := stock layout (.atRest 0xFF 0xF8) 8 (Recorded.fitted SoundRegisters.silent)
    let run : List Treatment :=
      [.operation (.write .main 0x9000 0), .operation (.write .main 0x8000 0),
        .operation (.write .main 0x6800 9), .operation (.write .main 0x6005 7),
        .operation (.read .main 0x6801), .operation (.read .main 0x8000),
        .operation (.write .sub 0x6001 0), .operation (.write .sound 0x4000 0),
        .operation (.read .sound 0x2000), .operation .frameSync, .operation (.read .sound 0x0005),
        .operation .takeEvents]
    let run' : List Treatment :=
      [.operation (.write .main 0x97FF 0), .operation (.write .main 0x8555 0),
        .operation (.write .main 0x6FC0 9), .operation (.write .main 0x6405 7),
        .operation (.read .main 0x6C81), .operation (.read .main 0xA000),
        .operation (.write .sub 0x6FFF 0), .operation (.write .sound 0x5FFF 0),
        .operation (.read .sound 0x3210), .operation .frameSync, .operation (.read .sound 0x1C05),
        .operation .takeEvents]
    List.Forall₂ (Treatment.Related Operation.Aliases) run run' ∧
      b.responses run' = b.responses run ∧ (b.treated run').state = (b.treated run).state ∧
      (b.treated run').sound.calls.reverse = [.enable true, .write 5 7] := by
  intro layout b run run'
  have hrun : List.Forall₂ (Treatment.Related Operation.Aliases) run run' :=
    .cons (.operation (.write _ (by decide))) <| .cons (.operation (.write _ (by decide))) <|
    .cons (.operation (.write _ (by decide))) <| .cons (.operation (.write _ (by decide))) <|
    .cons (.operation (.read (by decide))) <| .cons (.operation (.read (by decide))) <|
    .cons (.operation (.write _ (by decide))) <| .cons (.operation (.write _ (by decide))) <|
    .cons (.operation (.read (by decide))) <| .cons (.operation (.same _)) <|
    .cons (.operation (.read (by decide))) <| .cons (.operation (.same _)) .nil
  obtain ⟨⟨hresponses, hstate, hsound, -⟩, -⟩ := aliases_indistinguishable b hrun
  refine ⟨hrun, hresponses, hstate, ?_⟩
  rw [hsound]
  decide +kernel

end Board

end Arcade
