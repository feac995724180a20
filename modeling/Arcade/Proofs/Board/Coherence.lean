import Arcade.Proofs.Board.Operation
import Arcade.Proofs.Memory.Decode

/-!
# `Arcade.Proofs.Board.Coherence` — the shared memories are one coherent memory

A cell of shared memory can be reached by two processors, at different addresses and at several
addresses each. Whoever reads it, wherever, gets what was written to it last, whoever wrote it and
wherever. Only writes that lead to the cell and resets of the machine put anything into it, so the
contents can be read off the history (`Operation.stores`), without the board.

The third processor has no part in this. Its accesses lead to no cell of the memory, so they change
nothing in it, and they give the same whatever is in it.

## Contents
- `Operation.stores`, what an operation puts into a cell, and `lastStored`, what was put there last.
- `memory_read`, `memory_write`, and so on: what each step does to the memories.
- `read_perform`, `read_after`: the contents of a cell after an operation and after a history.
- `Board.DifferIn`: boards that differ in one memory, and what accesses make of them.
- `shared_ram_coherent`.
-/

namespace Arcade

/-- What an operation puts into a cell, given what the operation gave back: the end of a frame tells
whether a watchdog reset the machine. -/
def Operation.stores (c : Cell) : Operation → Answer → Option UInt8
  | .write p a data, _ => if AddressMap.decode p a .write = .ram c then some data else none
  | .machineReset, _ => some 0
  | .frameSync, .sync report => if report.watchdogReset.isSome then some 0 else none
  | _, _ => none

/-- What a history put into a cell last, if it put anything there. -/
def lastStored (c : Cell) (history : List (Operation × Answer)) : Option UInt8 :=
  history.reverse.findSome? fun e => e.1.stores c e.2

theorem lastStored_cons (c : Cell) (e : Operation × Answer) (history : List (Operation × Answer)) :
    lastStored c (e :: history) = (lastStored c history).or (e.1.stores c e.2) := by
  simp [lastStored, List.findSome?_append]

namespace Board

variable {S : Type} {b : Board S}

/-! ## Steps that leave the memories alone -/

@[simp] theorem memory_serviceWatchdog (b : Board S) (p : Processor) :
    (b.serviceWatchdog p).memory = b.memory := by
  cases p <;> rfl

@[simp] theorem memory_read (b : Board S) (p : Processor) (a : UInt16) :
    (b.read p a).2.memory = b.memory := by
  obtain ⟨j, hj⟩ := b.read_snd p a
  rw [hj]
  cases AddressMap.decode p a .read with
  | ram _ | rom _ | io _ _ | control _ | unmapped => rfl
  | watchdog => exact b.memory_serviceWatchdog p

section Chip

variable [SoundChip S]

@[simp] theorem memory_control (b : Board S) (p : Processor) (s : Switch) (data : UInt8) :
    (b.control p s data).memory = b.memory := by
  obtain ⟨_, _, _, _, _, _, _, hb, -⟩ := b.control_changes p s data
  rw [hb]

/-! ## Steps that change them -/

theorem memory_write (b : Board S) (p : Processor) (a : UInt16) (data : UInt8) :
    (b.write p a data).memory =
      match AddressMap.decode p a .write with
      | .ram cell => b.memory.write cell data
      | _ => b.memory := by
  obtain ⟨j, hj⟩ := b.write_eq p a data
  rw [hj]
  cases AddressMap.decode p a .write with
  | ram _ | rom _ | io _ _ | unmapped => rfl
  | watchdog => exact b.memory_serviceWatchdog p
  | control s => exact b.memory_control p s data

@[simp] theorem memory_machineReset (b : Board S) : b.machineReset.memory = .blank := by
  obtain ⟨j, hj⟩ := b.machineReset_eq
  rw [hj]

theorem memory_frameSync (b : Board S) :
    b.frameSync.2.memory = if b.frameSync.1.watchdogReset.isSome then .blank else b.memory := by
  -- requesting interrupts does not touch the memories
  rw [frameSync_watchdogReset, frameSync_eq]
  cases b.expired with
  | none => rfl
  | some p => exact memory_machineReset _

/-! ## What a cell holds -/

/-- A write leaves in a cell the byte written, if it leads to the cell, and otherwise what was there. -/
theorem read_memory_write (b : Board S) (p : Processor) (a : UInt16) (data : UInt8) (c : Cell) :
    (b.write p a data).memory.read c =
      if AddressMap.decode p a .write = .ram c then data else b.memory.read c := by
  rw [memory_write]
  cases AddressMap.decode p a .write with
  | ram cell =>
    by_cases hc : cell = c
    · subst hc
      rw [if_pos rfl]
      exact SharedRam.read_write_self _ _ _
    · rw [if_neg fun h => hc (Target.ram.inj h)]
      exact SharedRam.read_write_of_ne _ _ (Ne.symm hc)
  | rom _ | io _ _ | watchdog | control _ | unmapped => rw [if_neg nofun]

/-- **One operation leaves in a cell what it puts there**, or what was there before. -/
theorem read_perform (b : Board S) (op : Operation) (c : Cell) :
    (b.perform op).2.memory.read c = (op.stores c (b.perform op).1).getD (b.memory.read c) := by
  cases op with
  | read p a => exact congrArg (·.read c) (b.memory_read p a)
  | write p a data =>
    show (b.write p a data).memory.read c = _
    rw [read_memory_write]
    simp only [Operation.stores]
    split <;> rfl
  | machineReset =>
    show b.machineReset.memory.read c = 0
    rw [memory_machineReset, SharedRam.read_blank]
  | frameSync =>
    show b.frameSync.2.memory.read c =
      (if b.frameSync.1.watchdogReset.isSome then some 0 else none).getD (b.memory.read c)
    rw [memory_frameSync]
    split
    · exact SharedRam.read_blank c
    · rfl
  | configureSlot slot spec wiring =>
    obtain ⟨io, j, hb, _⟩ := b.perform_configureSlot slot spec wiring
    rw [hb]
    rfl
  | loadRom p image =>
    obtain ⟨roms, loaded, hb⟩ := b.perform_loadRom p image
    rw [hb]
    rfl
  | beginFrame | takeReset _ | setInput _ _ | press _ _ | takeEvents => rfl
  | notePc _ _ | unloadRom _ | snapshot _ => rfl

/-- **A history leaves in a cell what it put there last**, or what was there at first. -/
theorem read_after (b : Board S) (ops : List Operation) (c : Cell) :
    (b.after ops).memory.read c = (lastStored c (b.history ops)).getD (b.memory.read c) := by
  induction ops generalizing b with
  | nil => rfl
  | cons op ops ih =>
    -- what a later operation put there hides what this one did
    show ((b.perform op).2.after ops).memory.read c = _
    rw [ih, read_perform, history_cons, lastStored_cons]
    cases lastStored c ((b.perform op).2.history ops) <;> rfl

/-! ## Who reaches a cell -/

/-- Boards that differ at most in what one of the memories holds. -/
def DifferIn (r : Region) (b c : Board S) : Prop :=
  ∃ m : SharedRam, (∀ q, q ≠ r → m.region q = b.memory.region q) ∧ c = { b with memory := m }

omit [SoundChip S] in
/-- What leaves the memories alone keeps boards as far apart as they were. -/
theorem DifferIn.of_memory {r : Region} {b b' c' : Board S} {m : SharedRam}
    (hm : ∀ q, q ≠ r → m.region q = b.memory.region q) (hb : b'.memory = b.memory)
    (hc : c' = { b' with memory := m }) : b'.DifferIn r c' := by
  refine ⟨m, ?_, hc⟩
  rw [hb]
  exact hm

omit [SoundChip S] in
theorem serviceWatchdog_withMemory (b : Board S) (m : SharedRam) (p : Processor) :
    ({ b with memory := m } : Board S).serviceWatchdog p = { b.serviceWatchdog p with memory := m } := by
  cases p <;> rfl

theorem control_withMemory (b : Board S) (m : SharedRam) (p : Processor) (s : Switch) (data : UInt8) :
    ({ b with memory := m } : Board S).control p s data = { b.control p s data with memory := m } := by
  cases s with
  | interrupt q enable =>
    simp only [control, switchInterrupt]
    split <;> rfl
  | secondaries release =>
    simp only [control, holdSecondaries_eq]
    rfl
  | ioChips release =>
    simp only [control, holdChips]
    split <;> rfl
  | starfield register => rfl

omit [SoundChip S] in
/-- A read of a processor that does not share a memory gives the same whatever the memory holds. -/
theorem DifferIn.read {r : Region} {b c : Board S} (h : b.DifferIn r c) {p : Processor}
    (hp : r.isOwnedBy p = false) (a : UInt16) :
    (c.read p a).1 = (b.read p a).1 ∧ (b.read p a).2.DifferIn r (c.read p a).2 := by
  obtain ⟨m, hm, rfl⟩ := h
  unfold Board.read
  cases hd : AddressMap.decode p a .read with
  | ram cell => exact ⟨SharedRam.read_congr (hm _ (AddressMap.region_ne_of_decode hd hp)), m, hm, rfl⟩
  | rom _ | io _ _ | control _ | unmapped => exact ⟨rfl, .of_memory hm rfl rfl⟩
  | watchdog =>
    exact ⟨rfl, .of_memory hm (b.memory_serviceWatchdog p) (serviceWatchdog_withMemory b m p)⟩

/-- A write does the same to everything else whatever a memory holds. -/
theorem DifferIn.write {r : Region} {b c : Board S} (h : b.DifferIn r c) (p : Processor)
    (a : UInt16) (data : UInt8) : (b.write p a data).DifferIn r (c.write p a data) := by
  obtain ⟨m, hm, rfl⟩ := h
  unfold Board.write
  cases hd : AddressMap.decode p a .write with
  | ram cell =>
    simp only [soundWrite_eq]
    exact ⟨m.write cell data, fun q hq => SharedRam.region_write_congr cell data (hm q hq), rfl⟩
  | rom _ | io _ _ | unmapped => exact .of_memory hm rfl rfl
  | watchdog =>
    exact .of_memory hm (b.memory_serviceWatchdog p) (serviceWatchdog_withMemory b m p)
  | control s =>
    exact .of_memory hm (b.memory_control p s data) (control_withMemory b m p s data)

/-- A write of a processor that does not share a memory leaves it alone. -/
theorem region_write {p : Processor} {r : Region} (hp : r.isOwnedBy p = false) (b : Board S)
    (a : UInt16) (data : UInt8) : (b.write p a data).memory.region r = b.memory.region r := by
  rw [memory_write]
  cases hd : AddressMap.decode p a .write with
  | ram cell => exact SharedRam.region_write_of_ne _ data (AddressMap.region_ne_of_decode hd hp)
  | rom _ | io _ _ | watchdog | control _ | unmapped => rfl

/-! ## Coherence -/

/-- **The shared memories are coherent.** After any history, a read that leads to a cell gives what the
history put there last, or what was there at first; and no access of a processor that does not share a
memory changes any of it, or does anything else than it would do if the memory held something else. -/
theorem shared_ram_coherent (b : Board S) (ops : List Operation) :
    (∀ p a c, AddressMap.decode p a .read = .ram c →
      ((b.after ops).read p a).1 = (lastStored c (b.history ops)).getD (b.memory.read c)) ∧
    ∀ p r, r.isOwnedBy p = false →
      (∀ a, ((b.after ops).read p a).2.memory.region r = (b.after ops).memory.region r) ∧
      (∀ a data, ((b.after ops).write p a data).memory.region r = (b.after ops).memory.region r) ∧
      ∀ c, (b.after ops).DifferIn r c →
        (∀ a, (c.read p a).1 = ((b.after ops).read p a).1 ∧
          ((b.after ops).read p a).2.DifferIn r (c.read p a).2) ∧
        ∀ a data, ((b.after ops).write p a data).DifferIn r (c.write p a data) := by
  constructor
  · intro p a c hd
    rw [← read_after]
    unfold Board.read
    rw [hd]
  · intro p r hp
    refine ⟨?_, ?_, ?_⟩
    · intro a
      rw [memory_read]
    · intro a data
      exact region_write hp _ a data
    · intro c hc
      exact ⟨fun a => hc.read hp a, fun a data => hc.write p a data⟩

/-- Sound reads at one address what main wrote at another, until a watchdog resets the machine; sub has
no part in it. -/
theorem shared_ram_coherent_alias :
    let layout : IoLayout := ⟨⟨⟨.playerCoin, .part56⟩, ⟨.dipSwitch, .part58⟩⟩, true⟩
    let b := stock layout (.atRest 0xFF 0xF8) 1 SoundRegisters.silent
    let ops : List Operation := [.write .main 0x6412 7, .write .sub 0x6012 9]
    ((b.after ops).read .sound 0x1C12).1 = 7 ∧
      ((b.after (ops ++ [.frameSync])).read .sound 0x1C12).1 = 0 ∧
      ((b.after ops).write .sub 0x6012 9).memory.region .sound = (b.after ops).memory.region .sound := by
  intro layout b ops
  have hd : AddressMap.decode .sound 0x1C12 .read = .ram ⟨.sound, 0x12, by decide⟩ := by decide
  have hsub : Region.sound.isOwnedBy .sub = false := rfl
  refine ⟨?_, ?_, ((shared_ram_coherent b ops).2 .sub .sound hsub).2.1 0x6012 9⟩
  · rw [(shared_ram_coherent b ops).1 .sound 0x1C12 _ hd]
    decide +kernel
  · rw [(shared_ram_coherent b (ops ++ [Operation.frameSync])).1 .sound 0x1C12 _ hd]
    decide +kernel

end Chip

end Board

end Arcade
