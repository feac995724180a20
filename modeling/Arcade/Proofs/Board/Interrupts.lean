import Arcade.Proofs.Board.Operation
import Arcade.Proofs.Memory.Decode

/-!
# `Arcade.Proofs.Board.Interrupts` — the interrupt lines over a whole history

Whether the interrupt of a processor is let through, and whether its line is raised, depends on what was
done to the board before, and on nothing else. The register holds what was last put there
(`Operation.switches`): by the processor itself, or, for sub alone, by a reset of the machine. The line
is raised by the end of a frame that found the interrupt enabled, and stays up until it is disabled.

The watchdogs tick after the interrupts have been requested. So sub can lose its interrupt within the
end of a frame that has just raised it, and the report of that frame still tells that it was raised.

## Contents
- `Operation.switches`, `lastSwitch`: the events that enable and disable an interrupt.
- `latch_write`, `latch_machineReset`, `latch_frameSync`, `latch_perform`: what each step does to a latch.
- `enabled_after`: whether an interrupt is enabled after a history.
- `Board.StaysEnabled`, `Board.Raises`, `irqLine_after`: whether a line is raised after a history.
- `interrupt_lines_follow_history`.
-/

namespace Arcade

/-- What an access of a processor to its own interrupt register switches the interrupt to. -/
def Target.interrupt? {p : Processor} : Target p → Option Bool
  | .control (.interrupt _ on) => some on
  | _ => none

/-- What an operation switches the interrupt of a processor to, given what the operation gave back: the
end of a frame tells whether a watchdog reset the machine. -/
def Operation.switches (p : Processor) : Operation → Answer → Option Bool
  | .write q a _, _ => if q = p then (AddressMap.decode q a .write).interrupt? else none
  | .machineReset, _ => if p = .sub then some false else none
  | .frameSync, .sync report => if p = .sub ∧ report.watchdogReset.isSome then some false else none
  | _, _ => none

/-- What a history switched the interrupt of a processor to last, if it did so at all. -/
def lastSwitch (p : Processor) (history : List (Operation × Answer)) : Option Bool :=
  history.reverse.findSome? fun e => e.1.switches p e.2

theorem lastSwitch_cons (p : Processor) (e : Operation × Answer) (history : List (Operation × Answer)) :
    lastSwitch p (e :: history) = (lastSwitch p history).or (e.1.switches p e.2) := by
  simp [lastSwitch, List.findSome?_append]

/-- A latch after it may have been switched. -/
def InterruptLatch.switched (l : InterruptLatch) : Option Bool → InterruptLatch
  | none => l
  | some on => l.switch on

/-- A line is raised after a request and a switch if the latch is enabled then, and the line was raised
before or is raised by the request. -/
theorem InterruptLatch.Sound.line_switched {l : InterruptLatch} (h : l.Sound) (requested : Prop)
    [Decidable requested] (change : Option Bool) :
    ((if requested then l.request.2 else l).switched change).line = true ↔
      ((if requested then l.request.2 else l).switched change).enabled = true ∧
        (l.line = true ∨ requested ∧ l.enabled = true) := by
  obtain ⟨enabled, line⟩ := l
  have hgate : line = true → enabled = true := h
  by_cases hr : requested
  · rw [if_pos hr]
    cases change with
    | none =>
      show (enabled || line) = true ↔ enabled = true ∧ (line = true ∨ requested ∧ enabled = true)
      grind
    | some on =>
      show (on && (enabled || line)) = true ↔ on = true ∧ (line = true ∨ requested ∧ enabled = true)
      grind
  · rw [if_neg hr]
    cases change with
    | none =>
      show line = true ↔ enabled = true ∧ (line = true ∨ requested ∧ enabled = true)
      grind
    | some on =>
      show (on && line) = true ↔ on = true ∧ (line = true ∨ requested ∧ enabled = true)
      grind

namespace Board

variable {S : Type}

/-- The interrupt latch of a processor. -/
def latch (b : Board S) (p : Processor) : InterruptLatch := b.controls.latches.get p

/-! ## What each step does to a latch -/

theorem latch_read (b : Board S) (q : Processor) (a : UInt16) (p : Processor) :
    (b.read q a).2.latch p = b.latch p := by
  obtain ⟨main, sound, counts, j, hj⟩ := b.read_changes q a
  rw [hj]
  rfl

/-- The end of a frame requests every interrupt. -/
theorem latch_vblank (b : Board S) (p : Processor) : b.vblank.latch p = (b.latch p).request.2 := by
  cases p <;> rfl

variable [SoundChip S]

/-- A control register switches the interrupt of a processor if it is its interrupt register. -/
theorem latch_control (b : Board S) (q : Processor) (s : Switch) (data : UInt8) (p : Processor) :
    (b.control q s data).latch p =
      match s with
      | .interrupt r on => (b.latch p).switched (if r = p then some on else none)
      | _ => b.latch p := by
  obtain ⟨j, hj⟩ := b.control_eq q s data
  rw [hj]
  cases s with
  | interrupt r on =>
    show (b.controls.latches.modify r fun l => l.switch on).get p = _
    rw [PerProcessor.get_modify]
    dsimp only
    split <;> rfl
  | secondaries release =>
    dsimp only
    rw [holdSecondaries_eq]
    rfl
  | ioChips _ | starfield _ => rfl

theorem latch_write (b : Board S) (q : Processor) (a : UInt16) (data : UInt8) (p : Processor) :
    (b.write q a data).latch p =
      (b.latch p).switched ((Operation.write q a data).switches p .done) := by
  obtain ⟨j, hj⟩ := b.write_eq q a data
  have hswitches : (Operation.write q a data).switches p .done =
      if q = p then (AddressMap.decode q a .write).interrupt? else none := rfl
  -- a write that leads to no interrupt register switches nothing, whoever makes it
  have hnone : (if q = p then (none : Option Bool) else none) = none := ite_self _
  rw [hj, hswitches]
  cases hd : AddressMap.decode q a .write with
  | ram _ | rom _ | io _ _ | unmapped =>
    show b.latch p = (b.latch p).switched (if q = p then none else none)
    rw [hnone]
    rfl
  | watchdog =>
    obtain ⟨main, sound, hserviced⟩ := b.serviceWatchdog_changes q
    show (b.serviceWatchdog q).latch p = (b.latch p).switched (if q = p then none else none)
    rw [hnone, hserviced]
    rfl
  | control s =>
    cases s with
    | interrupt r on =>
      cases AddressMap.decode_interrupt hd
      exact b.latch_control q (.interrupt q on) data p
    | secondaries _ | ioChips _ | starfield _ =>
      show (b.control q _ data).latch p = (b.latch p).switched (if q = p then none else none)
      rw [hnone]
      exact b.latch_control q _ data p

/-- A reset of the machine disables the interrupt of sub, and leaves those of main and sound alone. -/
theorem latch_machineReset (b : Board S) (p : Processor) :
    b.machineReset.latch p = (b.latch p).switched (if p = .sub then some false else none) := by
  obtain ⟨j, hj⟩ := b.machineReset_eq
  rw [hj]
  cases p <;> rfl

/-- The end of a frame requests the interrupt first. A reset by a watchdog comes afterwards. -/
theorem latch_frameSync (b : Board S) (p : Processor) :
    b.frameSync.2.latch p =
      (b.latch p).request.2.switched
        (if p = .sub ∧ b.frameSync.1.watchdogReset.isSome then some false else none) := by
  rw [frameSync_watchdogReset, frameSync_eq, ← latch_vblank]
  cases b.expired with
  | none =>
    rw [if_neg fun h => Bool.false_ne_true h.2]
    rfl
  | some q =>
    show ((b.vblank.ticked.countReset q).machineReset).latch p = _
    rw [latch_machineReset]
    simp only [Option.isSome_some, and_true]
    rfl

/-- **What one operation does to a latch**: the end of a frame requests the interrupt, and then the latch
is switched if the operation does that. -/
theorem latch_perform (b : Board S) (op : Operation) (p : Processor) :
    (b.perform op).2.latch p =
      (if op = .frameSync then (b.latch p).request.2 else b.latch p).switched
        (op.switches p (b.perform op).1) := by
  cases op with
  | read q a => exact b.latch_read q a p
  | write q a data => exact b.latch_write q a data p
  | machineReset => exact b.latch_machineReset p
  | frameSync => exact b.latch_frameSync p
  | configureSlot slot spec wiring =>
    obtain ⟨io, j, hb, _⟩ := b.perform_configureSlot slot spec wiring
    rw [hb]
    rfl
  | loadRom q image =>
    obtain ⟨roms, loaded, hb⟩ := b.perform_loadRom q image
    rw [hb]
    rfl
  | beginFrame | takeReset _ | setInput _ _ | press _ _ | takeEvents => rfl
  | notePc _ _ | unloadRom _ | snapshot _ => rfl

/-- The end of a frame reports whose interrupt was let through: those that were enabled. -/
theorem irqs_frameSync (b : Board S) (p : Processor) :
    b.frameSync.1.irqs.get p = (b.latch p).enabled := by
  cases p <;> rfl

/-! ## One operation after the other -/

theorem enabled_perform (b : Board S) (op : Operation) (p : Processor) :
    ((b.perform op).2.latch p).enabled =
      (op.switches p (b.perform op).1).getD (b.latch p).enabled := by
  -- a request leaves the latch as enabled as it was
  have hrequest (l : InterruptLatch) : (if op = .frameSync then l.request.2 else l).enabled = l.enabled := by
    split <;> rfl
  rw [latch_perform]
  cases op.switches p (b.perform op).1 with
  | none => exact hrequest (b.latch p)
  | some on => rfl

/-- **An interrupt is enabled if the last switch enabled it**, or, before the first, if it was at first. -/
theorem enabled_after (b : Board S) (ops : List Operation) (p : Processor) :
    ((b.after ops).latch p).enabled = (lastSwitch p (b.history ops)).getD (b.latch p).enabled := by
  induction ops generalizing b with
  | nil => rfl
  | cons op ops ih =>
    -- a later switch hides what this operation did
    show (((b.perform op).2.after ops).latch p).enabled = _
    rw [ih, enabled_perform, history_cons, lastSwitch_cons]
    cases lastSwitch p ((b.perform op).2.history ops) <;> rfl

/-- No operation raises a line behind a disabled latch. -/
theorem latch_sound_perform {b : Board S} {p : Processor} (h : (b.latch p).Sound) (op : Operation) :
    ((b.perform op).2.latch p).Sound := by
  have hrequest : (if op = .frameSync then (b.latch p).request.2 else b.latch p).Sound := by
    split
    · exact h.request
    · exact h
  rw [latch_perform]
  cases op.switches p (b.perform op).1 with
  | none => exact hrequest
  | some on => exact InterruptLatch.Sound.switch on

/-- A line is raised after an operation if the interrupt is enabled then, and the line was raised
before or is raised by this end of a frame. -/
theorem irqLine_perform {b : Board S} {p : Processor} (h : (b.latch p).Sound) (op : Operation) :
    (b.perform op).2.irqLine p = true ↔
      ((b.perform op).2.latch p).enabled = true ∧
        (b.irqLine p = true ∨ op = .frameSync ∧ (b.latch p).enabled = true) := by
  show ((b.perform op).2.latch p).line = true ↔
    ((b.perform op).2.latch p).enabled = true ∧
      ((b.latch p).line = true ∨ op = .frameSync ∧ (b.latch p).enabled = true)
  rw [latch_perform]
  exact h.line_switched (op = .frameSync) (op.switches p (b.perform op).1)

/-- The interrupt of a processor is enabled, and stays enabled after every one of the operations. -/
def StaysEnabled (p : Processor) (b : Board S) (ops : List Operation) : Prop :=
  ∀ done, done <+: ops → ((b.after done).latch p).enabled = true

theorem staysEnabled_nil {p : Processor} {b : Board S} :
    b.StaysEnabled p [] ↔ (b.latch p).enabled = true := by
  constructor
  · intro h
    exact h [] List.prefix_rfl
  · intro h done hdone
    cases List.prefix_nil.mp hdone
    exact h

theorem staysEnabled_cons {p : Processor} {b : Board S} {op : Operation} {ops : List Operation} :
    b.StaysEnabled p (op :: ops) ↔
      (b.latch p).enabled = true ∧ (b.perform op).2.StaysEnabled p ops := by
  constructor
  · intro h
    exact ⟨h [] List.nil_prefix, fun done hdone => h (op :: done) (List.cons_prefix_cons.mpr ⟨rfl, hdone⟩)⟩
  · rintro ⟨hnow, hlater⟩ done hdone
    cases done with
    | nil => exact hnow
    | cons o done =>
      obtain ⟨rfl, hrest⟩ := List.cons_prefix_cons.mp hdone
      exact hlater done hrest

theorem StaysEnabled.enabled {p : Processor} {b : Board S} {ops : List Operation}
    (h : b.StaysEnabled p ops) : (b.latch p).enabled = true := h [] List.nil_prefix

/-- Some end of a frame in a list of operations finds the interrupt enabled, and it stays enabled from
then on. -/
def Raises (p : Processor) (b : Board S) (ops : List Operation) : Prop :=
  ∃ before later, ops = before ++ .frameSync :: later ∧
    ((b.after before).latch p).enabled = true ∧
    (b.after (before ++ [.frameSync])).StaysEnabled p later

theorem raises_cons {p : Processor} {b : Board S} {op : Operation} {ops : List Operation} :
    b.Raises p (op :: ops) ↔
      (op = .frameSync ∧ (b.latch p).enabled = true ∧ (b.perform op).2.StaysEnabled p ops) ∨
        (b.perform op).2.Raises p ops := by
  constructor
  · rintro ⟨before, later, hsplit, henabled, hstays⟩
    cases before with
    | nil =>
      cases hsplit
      exact .inl ⟨rfl, henabled, hstays⟩
    | cons o before =>
      cases hsplit
      exact .inr ⟨before, later, rfl, henabled, hstays⟩
  · rintro (⟨rfl, henabled, hstays⟩ | ⟨before, later, rfl, henabled, hstays⟩)
    · exact ⟨[], ops, rfl, henabled, hstays⟩
    · exact ⟨op :: before, later, rfl, henabled, hstays⟩

/-- **A line is raised if it was raised at first and has stayed enabled**, or was raised by the end of
some frame and has stayed enabled since. -/
theorem irqLine_after {b : Board S} {p : Processor} (h : (b.latch p).Sound) (ops : List Operation) :
    (b.after ops).irqLine p = true ↔
      (b.irqLine p = true ∧ b.StaysEnabled p ops) ∨ b.Raises p ops := by
  induction ops generalizing b with
  | nil =>
    have hnone : ¬ b.Raises p [] := fun ⟨before, _, hsplit, _⟩ => by cases before <;> cases hsplit
    rw [staysEnabled_nil, or_iff_left hnone]
    exact ⟨fun hline => ⟨hline, h hline⟩, fun hline => hline.1⟩
  | cons op ops ih =>
    show ((b.perform op).2.after ops).irqLine p = true ↔ _
    rw [ih (latch_sound_perform h op), irqLine_perform h, staysEnabled_cons, raises_cons]
    constructor
    · rintro (⟨⟨-, hline | ⟨hop, henabled⟩⟩, hstays⟩ | hraises)
      · exact .inl ⟨hline, h hline, hstays⟩
      · exact .inr (.inl ⟨hop, henabled, hstays⟩)
      · exact .inr (.inr hraises)
    · rintro (⟨hline, -, hstays⟩ | ⟨hop, henabled, hstays⟩ | hraises)
      · exact .inl ⟨⟨hstays.enabled, .inl hline⟩, hstays⟩
      · exact .inl ⟨⟨hstays.enabled, .inr ⟨hop, henabled⟩⟩, hstays⟩
      · exact .inr hraises

/-- Nothing is queued: after the end of a frame that finds an interrupt disabled its line stays down for
as long as no other frame ends. -/
theorem irqLine_request_lost {b : Board S} {p : Processor} (h : (b.latch p).Sound)
    (hdisabled : (b.latch p).enabled = false) {later : List Operation} (hlater : .frameSync ∉ later) :
    (b.after (.frameSync :: later)).irqLine p = false := by
  have hdown : ¬ (b.irqLine p = true) := fun hline => Bool.false_ne_true (hdisabled.symm.trans (h hline))
  have hnone : ¬ (b.perform .frameSync).2.Raises p later := by
    rintro ⟨before, rest, rfl, -⟩
    exact hlater (List.mem_append_right before (List.mem_cons_self ..))
  rw [Bool.eq_false_iff]
  intro hline
  rcases (irqLine_after h (.frameSync :: later)).mp hline with hup | hraises
  · exact hdown hup.1
  · rcases raises_cons.mp hraises with ⟨-, henabled, -⟩ | hraises
    · exact Bool.false_ne_true (hdisabled.symm.trans henabled)
    · exact hnone hraises

/-! ## From power-on -/

/-- **The interrupt lines follow the history.** After any operations on a board that was just switched
on, and for every processor:

- its interrupt is enabled exactly if it was enabled by the last of the events that switch it;
- its line is raised exactly if the end of some frame found it enabled and it has stayed enabled since;
- the next end of a frame reports it exactly if it is enabled;
- a frame that ends while it is disabled raises no line, neither then nor later;
- no reset of the machine changes it, by the host or by a watchdog, unless the processor is sub. -/
theorem interrupt_lines_follow_history {layout : IoLayout} {inputs : Inputs} {frames : UInt32} {sound : S}
    {b : Board S} (h : powerOn layout inputs frames sound = .ok b) (ops : List Operation) (p : Processor) :
    (((b.after ops).latch p).enabled = true ↔ lastSwitch p (b.history ops) = some true) ∧
      ((b.after ops).irqLine p = true ↔ b.Raises p ops) ∧
      (b.after ops).frameSync.1.irqs.get p = ((b.after ops).latch p).enabled ∧
      (((b.after ops).latch p).enabled = false → ∀ later, .frameSync ∉ later →
        ((b.after ops).after (.frameSync :: later)).irqLine p = false) ∧
      (p ≠ .sub → (b.after ops).machineReset.latch p = (b.after ops).latch p ∧
        (b.after ops).frameSync.2.latch p = ((b.after ops).latch p).request.2) := by
  rw [powerOn_eq] at h
  cases h
  have hfirst : (stock layout inputs frames sound).latch p = .powerOn := PerProcessor.get_replicate _ p
  have hsound : ((stock layout inputs frames sound).latch p).Sound := by
    rw [hfirst]
    exact InterruptLatch.sound_powerOn
  have hkept : (((stock layout inputs frames sound).after ops).latch p).Sound :=
    after_induction (P := fun b => (b.latch p).Sound) (fun _ op hs => latch_sound_perform hs op) hsound ops
  have hdown : (stock layout inputs frames sound).irqLine p = false := by
    show ((stock layout inputs frames sound).latch p).line = false
    rw [hfirst]
    rfl
  refine ⟨?_, ?_, irqs_frameSync _ p, ?_, ?_⟩
  · rw [enabled_after, hfirst]
    -- before the first switch the interrupt is disabled, as it is after power-on
    cases lastSwitch p ((stock layout inputs frames sound).history ops) with
    | none => exact ⟨nofun, nofun⟩
    | some on => simp
  · rw [irqLine_after hsound, hdown]
    exact or_iff_right fun hline => Bool.false_ne_true hline.1
  · intro hdisabled later hlater
    exact irqLine_request_lost hkept hdisabled hlater
  · intro hsub
    rw [latch_machineReset, latch_frameSync, if_neg hsub, if_neg fun hboth => hsub hboth.1]
    exact ⟨rfl, rfl⟩

/-- The watchdog of main expires at the end of the first frame. Main and sub have both enabled their
interrupts, and the report tells of both; afterwards only main's line is raised. -/
theorem interrupt_lines_follow_history_watchdog :
    let layout : IoLayout := ⟨⟨⟨.playerCoin, .part56⟩, ⟨.dipSwitch, .part58⟩⟩, true⟩
    let enabling : List Operation := [.write .main 0x7000 0, .write .sub 0x6001 0]
    ∃ b, powerOn layout (.atRest 0xFF 0xF8) 1 SoundRegisters.silent = .ok b ∧
      (b.after enabling).frameSync.1.irqs = ⟨true, true, false⟩ ∧
      (b.after (enabling ++ [.frameSync])).irqLine .main = true ∧
      ((b.after (enabling ++ [.frameSync])).latch .sub).enabled = false ∧
      (b.after (enabling ++ [.frameSync])).irqLine .sub = false := by
  intro layout enabling
  have hb := powerOn_eq layout (.atRest 0xFF 0xF8) 1 SoundRegisters.silent
  have hlaw (ops : List Operation) (p : Processor) := interrupt_lines_follow_history hb ops p
  refine ⟨_, hb, ?_, ?_, ?_, ?_⟩
  · apply PerProcessor.ext_get
    intro p
    rw [(hlaw enabling p).2.2.1, enabled_after]
    cases p <;> decide +kernel
  · rw [(hlaw _ .main).2.1]
    refine ⟨enabling, [], rfl, by decide +kernel, staysEnabled_nil.mpr (by decide +kernel)⟩
  · rw [Bool.eq_false_iff, ne_eq, (hlaw _ .sub).1]
    decide +kernel
  · decide +kernel

end Board

end Arcade
