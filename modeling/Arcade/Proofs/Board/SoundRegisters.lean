import Arcade.Proofs.Board.Acceptance
import Arcade.Proofs.Board.Coherence
import Arcade.Proofs.Board.SoundCalls

/-!
# `Arcade.Proofs.Board.SoundRegisters` — the registers of the sound generator and the bytes of sound memory

The first bytes of sound memory are also the registers of the sound generator, and `SoundRegisters` keeps a
copy of them. The copy is told about writes over the bus and about nothing else. A reset of the machine
clears the memory, a restored state replaces it, and the copy keeps what was written before: so the two
agree as long as nothing but the bus puts bytes into sound memory, and not in general.

## Contents
- `Operation.registerByte?`, `Treatment.written?`, `lastWritten`: what was written over the bus.
- `Board.puts`, `Board.lastPut`: what was put into a cell in any way.
- `register_treated`, `read_treated`: registers and memory after some treatments.
- `Board.Undisturbed`: neither resets nor restored states.
- `registers_keep_last_write`, and `registers_outlive_reset`, where the two disagree.
-/

namespace Arcade

/-! ## What is written over the bus -/

/-- The byte that an operation writes to a register of the sound generator, if it writes that one. -/
def Operation.registerByte? (i : Fin 64) : Operation → Option UInt8
  | .write p a data =>
    if AddressMap.soundWindow p a = true ∧ a.toNat % 0x400 = i.val then some data else none
  | _ => none

/-- It is the byte that the generator is told, if it is told about that register. -/
theorem Operation.registerByte?_eq (i : Fin 64) (op : Operation) :
    op.registerByte? i = op.registerWrite?.bind fun w => if w.1.toNat = i.val then some w.2 else none := by
  cases op with
  | write p a data =>
    unfold registerByte? registerWrite?
    dsimp only
    by_cases hwrite : AddressMap.soundWindow p a = true ∧ a.toNat % 0x400 < soundRegisterCount
    · have hnumber : (UInt8.ofNat (a.toNat % 0x400)).toNat = a.toNat % 0x400 := by
        have hlt : a.toNat % 0x400 < 64 := hwrite.2
        rw [UInt8.toNat_ofNat']
        omega
      rw [if_pos hwrite, Option.bind_some, hnumber]
      simp only [hwrite.1, true_and]
    · have hother : ¬ (AddressMap.soundWindow p a = true ∧ a.toNat % 0x400 = i.val) := by
        rintro ⟨hwindow, hi⟩
        exact hwrite ⟨hwindow, hi ▸ i.isLt⟩
      rw [if_neg hwrite, if_neg hother, Option.bind_none]
  | _ => rfl

/-- The byte that a treatment writes to a register. Restoring a state writes none. -/
def Treatment.written? (i : Fin 64) : Treatment → Option UInt8
  | .operation op => op.registerByte? i
  | .restore _ => none

/-- The byte that some treatments wrote to a register last, if they wrote it. -/
def lastWritten (i : Fin 64) (run : List Treatment) : Option UInt8 :=
  run.reverse.findSome? fun t => t.written? i

theorem lastWritten_cons (i : Fin 64) (t : Treatment) (run : List Treatment) :
    lastWritten i (t :: run) = (lastWritten i run).or (t.written? i) := by
  simp [lastWritten, List.findSome?_append]

/-! ## The registers -/

namespace SoundRegisters

/-- A write changes its own register and no other. -/
theorem get_registers_write (s : SoundRegisters) (register data : UInt8) (i : Fin 64) :
    (s.write register data).registers[i] = if register.toNat = i.val then data else s.registers[i] := by
  unfold write
  by_cases hi : register.toNat = i.val
  · rw [if_pos hi, dif_pos (hi ▸ i.isLt)]
    obtain ⟨n, hn⟩ := i
    obtain rfl : register.toNat = n := hi
    exact Vector.getElem_set_self _
  · rw [if_neg hi]
    split
    · next hlt => exact Vector.getElem_set_ne hlt i.isLt hi
    · rfl

/-- Only what the generator hears about a register changes that register. -/
theorem get_registers_heard (s : SoundRegisters) (held : Bool) (write : Option (UInt8 × UInt8))
    (line : Option Bool) (i : Fin 64) :
    ((SoundCall.heard held write line).foldl SoundCall.tell s).registers[i] =
      (write.bind fun w => if w.1.toNat = i.val then some w.2 else none).getD s.registers[i] := by
  have houtput : ((SoundCall.heard held write line).foldl SoundCall.tell s).registers =
      ((SoundCall.heard held write none).foldl SoundCall.tell s).registers := by
    rw [SoundCall.heard_none]
    unfold SoundCall.heard
    rw [List.foldl_append]
    cases line with
    | none => rfl
    | some level => cases held <;> cases level <;> rfl
  rw [houtput, SoundCall.heard_none]
  cases write with
  | none => rfl
  | some w =>
    show (s.write w.1 w.2).registers[i] = _
    rw [get_registers_write, Option.bind_some]
    split <;> rfl

end SoundRegisters

namespace Board

theorem register_treat (b : Board SoundRegisters) (t : Treatment) (i : Fin 64) :
    (b.treat t).sound.registers[i] = (t.written? i).getD (b.sound.registers[i]) := by
  cases t with
  | operation op =>
    show (b.perform op).2.sound.registers[i] = _
    rw [(b.hears_perform op).sound, SoundRegisters.get_registers_heard, ← op.registerByte?_eq]
    rfl
  | restore saved =>
    unfold treat
    dsimp only
    cases h : b.restore saved with
    | error e => rfl
    | ok b' =>
      obtain ⟨m, _, rfl⟩ := restore_eq_ok h
      rfl

/-- **A register holds the byte that was written to it last**, or what it held at first. -/
theorem register_treated (b : Board SoundRegisters) (run : List Treatment) (i : Fin 64) :
    (b.treated run).sound.registers[i] = (lastWritten i run).getD (b.sound.registers[i]) := by
  induction run generalizing b with
  | nil => rfl
  | cons t run ih =>
    rw [treated, ih, register_treat, lastWritten_cons]
    cases lastWritten i run <;> rfl

/-! ## The memory -/

variable {S : Type} [SoundChip S]

/-- What a treatment puts into a cell: a restored state brings the contents of all cells. -/
def puts (c : Cell) (b : Board S) : Treatment → Option UInt8
  | .operation op => op.stores c (b.perform op).1
  | .restore saved =>
    match SharedRam.ofImages saved.memory with
    | .ok m => some (m.read c)
    | .error _ => none

/-- What some treatments put into a cell last, if they put anything there. -/
def lastPut (c : Cell) (b : Board S) : List Treatment → Option UInt8
  | [] => none
  | t :: run => ((b.treat t).lastPut c run).or (b.puts c t)

theorem read_treat (b : Board S) (t : Treatment) (c : Cell) :
    (b.treat t).memory.read c = (b.puts c t).getD (b.memory.read c) := by
  cases t with
  | operation op => exact b.read_perform op c
  | restore saved =>
    unfold treat puts restore
    dsimp only
    cases SharedRam.ofImages saved.memory with
    | error e => rfl
    | ok m => rfl

/-- The state of a board brings the contents of its memory. -/
theorem puts_restore_state {T : Type} (c : Cell) (b : Board S) (other : Board T) :
    b.puts c (.restore other.state) = some (other.memory.read c) := by
  unfold puts
  dsimp only
  rw [show other.state.memory = other.memory.images from rfl, ofImages_images]

/-- **A cell holds what was put there last**, or what it held at first. -/
theorem read_treated (b : Board S) (run : List Treatment) (c : Cell) :
    (b.treated run).memory.read c = (b.lastPut c run).getD (b.memory.read c) := by
  induction run generalizing b with
  | nil => rfl
  | cons t run ih =>
    rw [treated, ih, read_treat, lastPut]
    cases (b.treat t).lastPut c run <;> rfl

end Board

/-! ## Where the two agree -/

/-- The cell of sound memory that is a register. -/
def registerCell (i : Fin 64) : Cell := ⟨.sound, i.val, Nat.lt_trans i.isLt (by decide)⟩

/-- Whether an operation reset the machine, given what it gave back. -/
def Operation.resetsMachine : Operation → Answer → Bool
  | .machineReset, _ => true
  | .frameSync, .sync report => report.watchdogReset.isSome
  | _, _ => false

/-- What an operation puts into the cell of a register it writes to the register, unless it resets the
machine. -/
theorem Operation.stores_registerCell {op : Operation} {answer : Answer}
    (h : op.resetsMachine answer = false) (i : Fin 64) :
    op.stores (registerCell i) answer = op.registerByte? i := by
  cases op with
  | write p a data => simp only [stores, registerByte?, registerCell, AddressMap.decode_sound_iff]
  | machineReset => cases h
  | frameSync =>
    cases answer with
    | sync report =>
      have hnone : report.watchdogReset.isSome = false := h
      simp only [stores, registerByte?, hnone, Bool.false_eq_true, if_false]
    | _ => rfl
  | _ => rfl

namespace Board

section Chip

variable {S : Type} [SoundChip S] {b : Board S}

/-- Nothing but operations is done to a board, and none of them resets the machine. -/
def Undisturbed (b : Board S) : List Treatment → Prop
  | [] => True
  | .operation op :: run =>
    op.resetsMachine (b.perform op).1 = false ∧ (b.perform op).2.Undisturbed run
  | .restore _ :: _ => False

/-- As long as a board is not disturbed, what is put into the cell of a register comes over the bus. -/
theorem Undisturbed.lastPut_eq {run : List Treatment} (h : b.Undisturbed run) (i : Fin 64) :
    b.lastPut (registerCell i) run = lastWritten i run := by
  induction run generalizing b with
  | nil => rfl
  | cons t run ih =>
    cases t with
    | operation op =>
      have hstores := op.stores_registerCell h.1 i
      rw [lastPut, lastWritten_cons, puts, hstores]
      exact congrArg (fun last => last.or (op.registerByte? i)) (ih h.2)
    | restore saved => exact h.elim

end Chip

/-- **What the registers hold, and what the memory holds.** On a board that was switched on, and whatever was
done to it and put into it since, a register of the sound generator holds the byte that was written to it
over the bus last, and its cell of sound memory the byte that was put there last in any way. So they agree
as long as the machine is not reset and no state is restored. -/
theorem registers_keep_last_write {layout : IoLayout} {inputs : Inputs} {frames : UInt32}
    {b : Board SoundRegisters} (h : powerOn layout inputs frames .silent = .ok b) (run : List Treatment)
    (i : Fin 64) :
    (b.treated run).sound.registers[i] = (lastWritten i run).getD 0 ∧
      (b.treated run).memory.read (registerCell i) = (b.lastPut (registerCell i) run).getD 0 ∧
      (b.Undisturbed run →
        (b.treated run).sound.registers[i] = (b.treated run).memory.read (registerCell i)) := by
  rw [powerOn_eq] at h
  cases h
  have hregister : (stock layout inputs frames SoundRegisters.silent).sound.registers[i] = 0 :=
    Vector.getElem_replicate i.isLt
  have hmemory : (stock layout inputs frames SoundRegisters.silent).memory.read (registerCell i) = 0 :=
    SharedRam.read_blank _
  rw [register_treated, read_treated, hregister, hmemory]
  refine ⟨rfl, rfl, ?_⟩
  intro hundisturbed
  rw [hundisturbed.lastPut_eq]

/-- Main and sound write a register at different addresses, with sub and sound released in between. -/
theorem registers_keep_last_write_alias :
    let layout : IoLayout := ⟨⟨⟨.playerCoin, .part56⟩, ⟨.dipSwitch, .part58⟩⟩, true⟩
    let run : List Treatment :=
      [.operation (.write .main 0x6405 0x33), .operation (.write .main 0x8000 0), .operation .frameSync,
        .operation (.write .sound 0x1805 0x44)]
    ∃ b, powerOn layout (.atRest 0xFF 0xF8) 8 SoundRegisters.silent = .ok b ∧
      (b.treated run).sound.registers[5] = 0x44 ∧
      (b.treated run).memory.read (registerCell 5) = 0x44 := by
  intro layout run
  have hb := powerOn_eq layout (.atRest 0xFF 0xF8) 8 SoundRegisters.silent
  obtain ⟨hregister, _, hagree⟩ := registers_keep_last_write hb run 5
  have hwritten : (stock layout (.atRest 0xFF 0xF8) 8 SoundRegisters.silent |>.treated run).sound.registers[5] =
      0x44 := by
    refine hregister.trans ?_
    decide +kernel
  refine ⟨_, hb, hwritten, ?_⟩
  exact (hagree ⟨rfl, rfl, rfl, rfl, trivial⟩).symm.trans hwritten

/-- **A reset of the machine and a restored state leave the registers as they were**, and the byte of sound
memory that a register is said to be is gone. -/
theorem registers_outlive_reset :
    let layout : IoLayout := ⟨⟨⟨.playerCoin, .part56⟩, ⟨.dipSwitch, .part58⟩⟩, true⟩
    let b := stock layout (.atRest 0xFF 0xF8) 8 SoundRegisters.silent
    let write : Treatment := .operation (.write .main 0x6005 0x33)
    let reset := b.treated [write, .operation .machineReset]
    let restored := b.treated [write, .restore b.state]
    Reachable .silent b ∧
      (reset.sound.registers[(5 : Fin 64)] = 0x33 ∧ reset.memory.read (registerCell 5) = 0) ∧
      restored.sound.registers[(5 : Fin 64)] = 0x33 ∧ restored.memory.read (registerCell 5) = 0 := by
  intro layout b write reset restored
  have hblank : b.memory.read (registerCell 5) = 0 := SharedRam.read_blank _
  have hreachable : Reachable .silent b := .powerOn (powerOn_eq _ _ _ _)
  -- nothing else about the board matters
  clear_value b
  refine ⟨hreachable, ⟨?_, ?_⟩, ?_, ?_⟩
  · rw [register_treated]
    rfl
  · rw [read_treated]
    rfl
  · rw [register_treated]
    rfl
  · rw [read_treated, lastPut, lastPut, lastPut, puts_restore_state]
    exact hblank

end Board

end Arcade
