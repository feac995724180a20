import Arcade.Proofs.Board.Operation

/-!
# `Arcade.Proofs.Board.Restore` — a restored board goes on as the saved one would have

Two boards *mirror* each other when they differ at most in what nobody can ask them for: the sound
generators, the labels of the chips, the journals, and where the processors were. Their queues of
events may differ by events that one of them had queued beforehand. Every operation gives the same
answer on both and leaves them mirroring each other, so the same holds of every history.

Restoring a board's state into a board with the same wiring and the same programs gives a mirror of
it, without the events that were queued.

## Contents
- `IoChip.Mirrors`, `IoBank.Mirrors`, `Board.Mirrors`, and the single-step lemmas.
- `Mirrors.perform`, `Mirrors.after`: one operation, then a list of them.
- `restore_mirrors` and the main statement `restore_bisimulates`.
-/

namespace Arcade

/-! ## Chips -/

/-- Two chips with the same bindings in the same state; their labels may differ. -/
structure IoChip.Mirrors {G L : Type} (c d : IoChip G L) : Prop where
  reads : c.reads = d.reads
  writes : c.writes = d.writes
  state : c.state = d.state

namespace IoChip

variable {G L : Type} {c d : IoChip G L}

theorem Mirrors.read (h : c.Mirrors d) (port : Nat) (sample : G → UInt8) :
    (c.read port sample).1 = (d.read port sample).1 := by
  unfold IoChip.read
  rw [h.reads, h.state]
  split
  · rfl
  · cases d.reads[port]? with
    | none => rfl
    | some r => cases r <;> rfl

theorem Mirrors.sink (h : c.Mirrors d) (port : Nat) (data : UInt8) :
    (c.sink port data).1 = (d.sink port data).1 := by
  unfold IoChip.sink
  rw [h.writes, h.state]
  split
  · rfl
  · cases d.writes[port]? with
    | none => rfl
    | some w => cases w <;> rfl

theorem Mirrors.setReset (h : c.Mirrors d) (asserted : Bool) :
    (c.setReset asserted).Mirrors (d.setReset asserted) :=
  { h with state := by unfold IoChip.setReset; rw [h.state] }

theorem Mirrors.clearInterrupt (h : c.Mirrors d) : c.clearInterrupt.Mirrors d.clearInterrupt :=
  { h with state := by unfold IoChip.clearInterrupt; rw [h.state] }

theorem Mirrors.pulse (h : c.Mirrors d) :
    c.pulse.1 = d.pulse.1 ∧ c.pulse.2.Mirrors d.pulse.2 := by
  unfold IoChip.pulse
  rw [h.state]
  split
  · exact ⟨rfl, h⟩
  · exact ⟨rfl, { h with state := rfl }⟩

end IoChip

/-! ## The bank of chips -/

/-- Two banks of chips that mirror each other; the first has more events at the head of its queue. -/
structure IoBank.Mirrors (queued : Array OutputEvent) (a b : IoBank) : Prop where
  slots : ∀ i, (a.slots.get i).chip.Mirrors (b.slots.get i).chip
  inputs : a.inputs = b.inputs
  outputs : a.outputs = b.outputs
  events : a.events = queued ++ b.events

namespace IoBank

variable {queued : Array OutputEvent} {a b : IoBank}

theorem slot?_of_lt (a : IoBank) {slot : Nat} (h : slot < 2) :
    a.slot? slot = some (a.slots.get ⟨slot, h⟩) := Pair.get?_eq_some_get a.slots ⟨slot, h⟩

theorem slot?_of_le (a : IoBank) {slot : Nat} (h : 2 ≤ slot) : a.slot? slot = none := by
  obtain ⟨n, rfl⟩ := Nat.exists_eq_add_of_le' h
  rfl

theorem Mirrors.read (h : a.Mirrors queued b) (slot register : Nat) :
    (a.read slot register).1 = (b.read slot register).1 := by
  unfold IoBank.read
  by_cases hs : slot < 2
  · rw [slot?_of_lt a hs, slot?_of_lt b hs, h.inputs]
    exact (h.slots ⟨slot, hs⟩).read _ _
  · rw [slot?_of_le a (Nat.le_of_not_lt hs), slot?_of_le b (Nat.le_of_not_lt hs)]

theorem Mirrors.write (h : a.Mirrors queued b) (slot register : Nat) (data : UInt8) :
    (a.write slot register data).1.Mirrors queued (b.write slot register data).1 := by
  unfold IoBank.write
  by_cases hs : slot < 2
  · have hsink := (h.slots ⟨slot, hs⟩).sink (register % 2) data
    rw [slot?_of_lt a hs, slot?_of_lt b hs]
    dsimp only
    generalize (a.slots.get ⟨slot, hs⟩).chip.sink (register % 2) data = x at hsink ⊢
    generalize (b.slots.get ⟨slot, hs⟩).chip.sink (register % 2) data = y at hsink ⊢
    obtain ⟨latch, noticesA⟩ := x
    obtain ⟨latch', noticesB⟩ := y
    obtain rfl : latch = latch' := hsink
    cases latch with
    | none => exact h
    | some latch =>
      -- the new events come from the outputs alone, and go behind those queued
      dsimp only
      rw [h.outputs, h.events]
      exact { h with outputs := rfl, events := Array.ext' (by simp) }
  · rw [slot?_of_le a (Nat.le_of_not_lt hs), slot?_of_le b (Nat.le_of_not_lt hs)]
    exact h

theorem Mirrors.mapChips (h : a.Mirrors queued b)
    {f : IoChip InputGroup OutputLatch → IoChip InputGroup OutputLatch}
    (hf : ∀ c d, c.Mirrors d → (f c).Mirrors (f d)) : (a.mapChips f).Mirrors queued (b.mapChips f) := by
  refine { h with slots := ?_ }
  intro i
  show ((a.slots.map fun s : IoSlot => { s with chip := f s.chip }).get i).chip.Mirrors
    ((b.slots.map fun s : IoSlot => { s with chip := f s.chip }).get i).chip
  rw [Pair.get_map, Pair.get_map]
  exact hf _ _ (h.slots i)

theorem Mirrors.setReset (h : a.Mirrors queued b) (asserted : Bool) :
    (a.setReset asserted).1.Mirrors queued (b.setReset asserted).1 :=
  h.mapChips fun _ _ hc => hc.setReset asserted

theorem Mirrors.clearInterrupts (h : a.Mirrors queued b) :
    a.clearInterrupts.Mirrors queued b.clearInterrupts :=
  h.mapChips fun _ _ hc => hc.clearInterrupt

/-- Putting mirroring chips into the same slot. -/
theorem Mirrors.setSlot (h : a.Mirrors queued b) (i : Fin 2) {s t : IoSlot}
    (hst : s.chip.Mirrors t.chip) :
    ({ a with slots := a.slots.set i s } : IoBank).Mirrors queued { b with slots := b.slots.set i t } := by
  refine { h with slots := ?_ }
  intro j
  show ((a.slots.set i s).get j).chip.Mirrors ((b.slots.set i t).get j).chip
  rw [Pair.set, Pair.set, Pair.get_modify, Pair.get_modify]
  split
  · exact hst
  · exact h.slots j

theorem Mirrors.pulse (h : a.Mirrors queued b) (slot : Nat) :
    (a.pulse slot).1 = (b.pulse slot).1 ∧ (a.pulse slot).2.Mirrors queued (b.pulse slot).2 := by
  unfold IoBank.pulse
  by_cases hs : slot < 2
  · obtain ⟨htaken, hchip⟩ := (h.slots ⟨slot, hs⟩).pulse
    rw [dif_pos hs, dif_pos hs]
    exact ⟨htaken, h.setSlot ⟨slot, hs⟩ hchip⟩
  · rw [dif_neg hs, dif_neg hs]
    exact ⟨rfl, h⟩

theorem Mirrors.chipStates (h : a.Mirrors queued b) : a.chipStates = b.chipStates := by
  have hfst : a.slots.fst.chip.state = b.slots.fst.chip.state := (h.slots 0).state
  have hsnd : a.slots.snd.chip.state = b.slots.snd.chip.state := (h.slots 1).state
  show Pair.mk a.slots.fst.chip.state a.slots.snd.chip.state = _
  rw [hfst, hsnd]
  rfl

/-- The same attempt to fill a slot fails for the same reason, or leaves banks that mirror each
other. -/
theorem Mirrors.configure (h : a.Mirrors queued b) (slot : Nat) (spec : ChipSpec) (wiring : Wiring) :
    (∃ problem, a.configure slot spec wiring = .error problem ∧
      b.configure slot spec wiring = .error problem) ∨
    ∃ a' b', a.configure slot spec wiring = .ok a' ∧ b.configure slot spec wiring = .ok b' ∧
      a'.Mirrors queued b' := by
  unfold IoBank.configure
  by_cases hs : slot < 2
  · rw [dif_pos hs, dif_pos hs]
    cases IoSlot.build spec wiring with
    | error problem => exact .inl ⟨_, rfl, rfl⟩
    | ok s => exact .inr ⟨_, _, rfl, rfl, h.setSlot ⟨slot, hs⟩ ⟨rfl, rfl, rfl⟩⟩
  · rw [dif_neg hs, dif_neg hs]
    exact .inl ⟨_, rfl, rfl⟩

end IoBank

/-! ## Boards -/

/-- Two boards that differ at most in what nobody can ask them for, and in some events that the first
has at the head of its queue. -/
structure Board.Mirrors {S T : Type} (queued : Array OutputEvent) (b : Board S) (c : Board T) : Prop where
  memory : b.memory = c.memory
  roms : b.roms = c.roms
  controls : b.controls = c.controls
  io : b.io.Mirrors queued c.io
  mainWatchdog : b.mainWatchdog = c.mainWatchdog
  soundWatchdog : b.soundWatchdog = c.soundWatchdog
  starfield : b.starfield = c.starfield
  pendingReset : b.pendingReset = c.pendingReset
  diagnostics : b.diagnostics = c.diagnostics

namespace Board

variable {S T : Type} {queued : Array OutputEvent} {b : Board S} {c : Board T}

/-- Boards that mirror each other are saved alike. -/
theorem Mirrors.state (h : b.Mirrors queued c) : b.state = c.state := by
  unfold Board.state
  rw [h.memory, h.controls, h.io.chipStates, h.io.inputs, h.io.outputs, h.mainWatchdog,
    h.soundWatchdog, h.starfield, h.pendingReset, h.diagnostics]

theorem Mirrors.snapshot (h : b.Mirrors queued c) (frame : UInt64) :
    b.snapshot frame = c.snapshot frame := by
  unfold Board.snapshot
  rw [h.memory, h.starfield]

/-! ### Accesses -/

theorem Mirrors.serviceWatchdog (h : b.Mirrors queued c) (p : Processor) :
    (b.serviceWatchdog p).Mirrors queued (c.serviceWatchdog p) := by
  cases p with
  | main => exact { h with mainWatchdog := congrArg Watchdog.service h.mainWatchdog }
  | sub => exact h
  | sound => exact { h with soundWatchdog := congrArg Watchdog.service h.soundWatchdog }

theorem Mirrors.read (h : b.Mirrors queued c) (p : Processor) (a : UInt16) :
    (b.read p a).1 = (c.read p a).1 ∧ (b.read p a).2.Mirrors queued (c.read p a).2 := by
  obtain ⟨j, hj⟩ := b.read_snd p a
  obtain ⟨k, hk⟩ := c.read_snd p a
  rw [hj, hk]
  unfold Board.read
  cases AddressMap.decode p a .read with
  | ram cell => exact ⟨congrArg (·.read cell) h.memory, { h with }⟩
  | rom offset => exact ⟨congrArg (·.read p offset) h.roms, { h with }⟩
  | io slot register => exact ⟨h.io.read slot register, { h with }⟩
  | watchdog => exact ⟨rfl, { h.serviceWatchdog p with }⟩
  | control _ | unmapped =>
    have hd := congrArg (fun d : Diagnostics => { d with unmappedReads := d.unmappedReads + 1 })
      h.diagnostics
    exact ⟨rfl, { h with diagnostics := hd }⟩

section Chip

variable [SoundChip S] [SoundChip T]

theorem Mirrors.holdSecondaries (h : b.Mirrors queued c) (asserted : Bool) :
    (b.holdSecondaries asserted).Mirrors queued (c.holdSecondaries asserted) := by
  have hedge : b.assertsHold asserted = c.assertsHold asserted := by
    unfold Board.assertsHold
    rw [h.controls]
  rw [holdSecondaries_eq, holdSecondaries_eq, hedge]
  exact { h with
    controls := congrArg (fun k : Controls => (k.holdSecondaries asserted).2) h.controls
    soundWatchdog := by rw [h.soundWatchdog]
    pendingReset := by rw [h.pendingReset] }

theorem Mirrors.control (h : b.Mirrors queued c) (p : Processor) (s : Switch) (data : UInt8) :
    (b.control p s data).Mirrors queued (c.control p s data) := by
  cases s with
  | interrupt q enable =>
    obtain ⟨j, hj⟩ := b.switchInterrupt_eq q enable
    obtain ⟨k, hk⟩ := c.switchInterrupt_eq q enable
    show (b.switchInterrupt q enable).Mirrors queued (c.switchInterrupt q enable)
    rw [hj, hk]
    exact { h with controls := congrArg (·.switchInterrupt q enable) h.controls }
  | secondaries release => exact h.holdSecondaries (!release)
  | ioChips release =>
    obtain ⟨j, hj⟩ := b.holdChips_eq p (!release)
    obtain ⟨k, hk⟩ := c.holdChips_eq p (!release)
    show (b.holdChips p (!release)).Mirrors queued (c.holdChips p (!release))
    rw [hj, hk]
    exact { h with
      controls := congrArg (fun k : Controls => (k.holdChips (!release)).2) h.controls
      io := h.io.setReset (!release) }
  | starfield register =>
    exact { h with starfield := congrArg (·.set register.val data register.isLt) h.starfield }

theorem Mirrors.write (h : b.Mirrors queued c) (p : Processor) (a : UInt16) (data : UInt8) :
    (b.write p a data).Mirrors queued (c.write p a data) := by
  obtain ⟨j, hj⟩ := b.write_eq p a data
  obtain ⟨k, hk⟩ := c.write_eq p a data
  rw [hj, hk]
  cases AddressMap.decode p a .write with
  | ram cell => exact { h with memory := congrArg (·.write cell data) h.memory }
  | rom offset =>
    have hd := congrArg (fun d : Diagnostics => { d with romWrites := d.romWrites + 1 }) h.diagnostics
    exact { h with diagnostics := hd }
  | io slot register => exact { h with io := h.io.write slot register data }
  | watchdog => exact h.serviceWatchdog p
  | control s => exact h.control p s data
  | unmapped =>
    have hd := congrArg (fun d : Diagnostics => { d with unmappedWrites := d.unmappedWrites + 1 })
      h.diagnostics
    exact { h with diagnostics := hd }

end Chip

/-! ### Frames -/

theorem Mirrors.requestInterrupt (h : b.Mirrors queued c) (p : Processor) :
    (b.requestInterrupt p).1 = (c.requestInterrupt p).1 ∧
      (b.requestInterrupt p).2.Mirrors queued (c.requestInterrupt p).2 := by
  have hr := congrArg (fun k : Controls => k.requestInterrupt p) h.controls
  exact ⟨congrArg Prod.fst hr, { h with controls := congrArg Prod.snd hr }⟩

theorem Mirrors.pulseChip (h : b.Mirrors queued c) (slot : Nat) :
    (b.pulseChip slot).1 = (c.pulseChip slot).1 ∧
      (b.pulseChip slot).2.Mirrors queued (c.pulseChip slot).2 :=
  ⟨(h.io.pulse slot).1, { h with io := (h.io.pulse slot).2 }⟩

theorem Mirrors.expired (h : b.Mirrors queued c) : b.expired = c.expired := by
  unfold Board.expired Board.isHeld
  rw [h.mainWatchdog, h.soundWatchdog, h.controls]

theorem Mirrors.ticked (h : b.Mirrors queued c) : b.ticked.Mirrors queued c.ticked := by
  have hs : b.ticked.soundWatchdog = c.ticked.soundWatchdog := by
    unfold Board.ticked Board.isHeld
    rw [h.controls, h.soundWatchdog]
  exact { h with
    mainWatchdog := congrArg (fun w : Watchdog => w.tick.2) h.mainWatchdog
    soundWatchdog := hs }

theorem Mirrors.countReset (h : b.Mirrors queued c) (p : Processor) :
    (b.countReset p).Mirrors queued (c.countReset p) := by
  have hd := congrArg (fun d : Diagnostics => { d with watchdogResets := d.watchdogResets + 1 })
    h.diagnostics
  exact { h with diagnostics := hd }

section Chip

variable [SoundChip S] [SoundChip T]

theorem Mirrors.machineReset (h : b.Mirrors queued c) : b.machineReset.Mirrors queued c.machineReset := by
  obtain ⟨j, hj⟩ := b.machineReset_eq
  obtain ⟨k, hk⟩ := c.machineReset_eq
  rw [hj, hk]
  exact { h with
    memory := rfl
    controls := congrArg Controls.machineReset h.controls
    io := h.io.setReset true
    mainWatchdog := congrArg Watchdog.restart h.mainWatchdog
    soundWatchdog := congrArg Watchdog.restart h.soundWatchdog
    pendingReset := rfl }

theorem Mirrors.tickWatchdogs (h : b.Mirrors queued c) :
    b.tickWatchdogs.1 = c.tickWatchdogs.1 ∧ b.tickWatchdogs.2.Mirrors queued c.tickWatchdogs.2 := by
  rw [tickWatchdogs_eq, tickWatchdogs_eq, h.expired]
  cases c.expired with
  | none => exact ⟨rfl, h.ticked⟩
  | some p => exact ⟨rfl, (h.ticked.countReset p).machineReset⟩

theorem Mirrors.frameSync (h : b.Mirrors queued c) :
    b.frameSync.1 = c.frameSync.1 ∧ b.frameSync.2.Mirrors queued c.frameSync.2 := by
  obtain ⟨hmain, h⟩ := h.requestInterrupt .main
  obtain ⟨hfirst, h⟩ := h.pulseChip 0
  obtain ⟨hsecond, h⟩ := h.pulseChip 1
  obtain ⟨hsub, h⟩ := h.requestInterrupt .sub
  obtain ⟨hsound, h⟩ := h.requestInterrupt .sound
  obtain ⟨hreset, h⟩ := h.tickWatchdogs
  refine ⟨?_, h⟩
  unfold Board.frameSync
  dsimp only
  rw [hmain, hfirst, hsecond, hsub, hsound, hreset]

/-! ### Any operation -/

theorem Mirrors.configureSlot (h : b.Mirrors queued c) (slot : Nat) (spec : ChipSpec)
    (wiring : Wiring) :
    (b.perform (.configureSlot slot spec wiring)).1 = (c.perform (.configureSlot slot spec wiring)).1 ∧
      (b.perform (.configureSlot slot spec wiring)).2.Mirrors queued
        (c.perform (.configureSlot slot spec wiring)).2 := by
  simp only [Board.perform, Board.configureSlot]
  rcases h.io.configure slot spec wiring with ⟨problem, hb, hc⟩ | ⟨io, io', hb, hc, hio⟩
  · rw [hb, hc]
    exact ⟨rfl, h⟩
  · rw [hb, hc, h.controls]
    exact ⟨rfl, { h with controls := rfl, io := hio.setReset _ }⟩

theorem Mirrors.loadRom (h : b.Mirrors queued c) (p : Processor) (image : List UInt8) :
    (b.perform (.loadRom p image)).1 = (c.perform (.loadRom p image)).1 ∧
      (b.perform (.loadRom p image)).2.Mirrors queued (c.perform (.loadRom p image)).2 := by
  simp only [Board.perform, Board.loadRom]
  by_cases hlen : image.length = p.romSize
  · rw [dif_pos hlen, dif_pos hlen]
    exact ⟨rfl, { h with roms := congrArg (fun r : ProgramRoms => r.set p _) h.roms }⟩
  · rw [dif_neg hlen, dif_neg hlen]
    exact ⟨rfl, h⟩

/-- **One operation on boards that mirror each other** gives the same answer, and boards that mirror each
other. Only the events taken can tell the boards apart, if one had more of them queued. -/
theorem Mirrors.perform (h : b.Mirrors queued c) {op : Operation}
    (hop : op ≠ .takeEvents ∨ queued = #[]) :
    (b.perform op).1 = (c.perform op).1 ∧ (b.perform op).2.Mirrors queued (c.perform op).2 := by
  cases op with
  | read p a => exact ⟨congrArg Answer.byte (h.read p a).1, (h.read p a).2⟩
  | write p a data => exact ⟨rfl, h.write p a data⟩
  | beginFrame => exact ⟨rfl, { h with io := h.io.clearInterrupts }⟩
  | frameSync => exact ⟨congrArg Answer.sync h.frameSync.1, h.frameSync.2⟩
  | machineReset => exact ⟨rfl, h.machineReset⟩
  | takeReset p =>
    exact ⟨congrArg (fun r : PerProcessor Bool => Answer.due (r.get p)) h.pendingReset,
      { h with pendingReset := congrArg (·.set p false) h.pendingReset }⟩
  | notePc p pc => exact ⟨rfl, { h with }⟩
  | setInput g v => exact ⟨rfl, { h with io := { h.io with inputs := congrArg (·.set g v) h.io.inputs } }⟩
  | press button pressed =>
    exact ⟨rfl, { h with io := { h.io with inputs := congrArg (·.press button pressed) h.io.inputs } }⟩
  | takeEvents =>
    -- the one operation that looks at the queue
    obtain rfl := hop.resolve_left fun hne => hne rfl
    have he : b.io.events = c.io.events := by rw [h.io.events]; simp
    exact ⟨congrArg (fun es : Array OutputEvent => Answer.events es.toList) he,
      { h with io := { h.io with events := rfl } }⟩
  | configureSlot slot spec wiring => exact h.configureSlot slot spec wiring
  | loadRom p image => exact h.loadRom p image
  | unloadRom p => exact ⟨rfl, { h with roms := congrArg (fun r : ProgramRoms => r.set p _) h.roms }⟩
  | snapshot frame => exact ⟨congrArg Answer.picture (h.snapshot frame), h⟩

/-- **A whole history on boards that mirror each other.** -/
theorem Mirrors.after (h : b.Mirrors queued c) (ops : List Operation)
    (hops : (∀ op ∈ ops, op ≠ .takeEvents) ∨ queued = #[]) :
    b.answers ops = c.answers ops ∧ (b.after ops).Mirrors queued (c.after ops) := by
  induction ops generalizing b c with
  | nil => exact ⟨rfl, h⟩
  | cons op ops ih =>
    have hop : op ≠ .takeEvents ∨ queued = #[] := hops.imp_left fun hne => hne op List.mem_cons_self
    have hrest : (∀ o ∈ ops, o ≠ .takeEvents) ∨ queued = #[] :=
      hops.imp_left fun hne o ho => hne o (List.mem_cons_of_mem op ho)
    obtain ⟨hanswer, hnext⟩ := h.perform hop
    obtain ⟨hanswers, hafter⟩ := ih hnext hrest
    refine ⟨?_, hafter⟩
    show (b.perform op).1 :: (b.perform op).2.answers ops = (c.perform op).1 :: (c.perform op).2.answers ops
    rw [hanswer, hanswers]

/-! ## Restoring -/

/-- Boards whose chips are bound alike, slot by slot. -/
def SameWiring (b : Board S) (c : Board T) : Prop :=
  ∀ i, (b.io.slots.get i).chip.reads = (c.io.slots.get i).chip.reads ∧
    (b.io.slots.get i).chip.writes = (c.io.slots.get i).chip.writes

omit [SoundChip S] in
theorem restore_mirrors (hw : b.SameWiring c) (hr : b.roms = c.roms) :
    ∃ r, c.restore b.state = .ok r ∧ r.io.events = #[] ∧ b.Mirrors b.io.events r := by
  refine ⟨_, restore_state c b, rfl, ?_⟩
  refine
    { memory := rfl, roms := hr, controls := rfl, mainWatchdog := rfl, soundWatchdog := rfl
      starfield := rfl, pendingReset := rfl, diagnostics := rfl, io := ?_ }
  refine { slots := ?_, inputs := rfl, outputs := rfl, events := by simp [IoBank.restore] }
  intro i
  match i with
  | 0 => exact ⟨(hw 0).1, (hw 0).2, rfl⟩
  | 1 => exact ⟨(hw 1).1, (hw 1).2, rfl⟩

/-- **A restored board is the saved board.** Restoring a board's state into any board with the same
wiring and the same programs succeeds, and from then on both give the same answers and are saved alike,
whatever is done to both. Events apart: those that were queued are gone, and those that follow are the
ones the saved board has once its queue has been taken. -/
theorem restore_bisimulates (b : Board S) (c : Board T) (hw : b.SameWiring c) (hr : b.roms = c.roms) :
    ∃ r, c.restore b.state = .ok r ∧
      (∀ ops, (∀ op ∈ ops, op ≠ Operation.takeEvents) →
        r.answers ops = b.answers ops ∧ (r.after ops).state = (b.after ops).state) ∧
      ∀ ops, r.answers ops = b.takeEvents.2.answers ops ∧
        (r.after ops).io.events = (b.takeEvents.2.after ops).io.events := by
  obtain ⟨r, hres, hempty, hm⟩ := restore_mirrors hw hr
  refine ⟨r, hres, ?_, ?_⟩
  · intro ops hops
    obtain ⟨hanswers, hafter⟩ := hm.after ops (.inl hops)
    exact ⟨hanswers.symm, hafter.state.symm⟩
  · intro ops
    -- taking the events takes away the only difference between the queues
    have hdrained : b.takeEvents.2.Mirrors #[] r :=
      { hm with io := { hm.io with events := by rw [hempty]; rfl } }
    obtain ⟨hanswers, hafter⟩ := hdrained.after ops (.inr rfl)
    exact ⟨hanswers.symm, by rw [hafter.io.events]; simp⟩

theorem restore_bisimulates_other_inputs :
    let layout : IoLayout := ⟨⟨⟨.playerCoin, .part56⟩, ⟨.dipSwitch, .part58⟩⟩, true⟩
    let b := (stock layout (.atRest 0xFF 0xF8) 8 SoundRegisters.silent).after
      [.write .main 0x8000 0, .write .main 0x9000 0, .write .main 0x6800 0x0B, .write .main 0x0100 0x5A]
    let c := stock layout (.atRest 0x00 0x12) 3 ([] : List SoundCall)
    let ops : List Operation := [.frameSync, .read .sub 0x0100, .write .main 0x6801 0]
    b.SameWiring c ∧ b.roms = c.roms ∧
      ∃ r, c.restore b.state = .ok r ∧ r.answers ops = b.answers ops ∧
        (r.after ops).state = (b.after ops).state ∧
        (r.after ops).io.events = (b.takeEvents.2.after ops).io.events := by
  intro layout b c ops
  have hw : b.SameWiring c := by
    intro i
    match i with
    | 0 => exact ⟨rfl, rfl⟩
    | 1 => exact ⟨rfl, rfl⟩
  have hr : b.roms = c.roms := rfl
  obtain ⟨r, hres, hanswers, hevents⟩ := restore_bisimulates b c hw hr
  have hops : ∀ op ∈ ops, op ≠ Operation.takeEvents := by decide
  exact ⟨hw, hr, r, hres, (hanswers ops hops).1, (hanswers ops hops).2, (hevents ops).2⟩

end Chip

end Board

end Arcade
