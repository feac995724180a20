import Arcade.Proofs.Board.Operation

/-!
# `Arcade.Proofs.Board.OutputEvents` — the output events tell the whole story

Whoever listens to the output events of a board, and takes them from the queue whenever he likes, knows
what the lamps, the lockout and the counters show. Nothing is told twice: a lamp or the lockout is only
mentioned when it changes.

What the outputs show is a `Display`. Events *lead* from one display to another if each changes something
and the last display is what they make of the first; so do the events of every drive of a latch, of every
operation, and of every history. What the counters last saw at their inputs is not shown.

## Contents
- `Display`, `Display.react`, `Display.follow`, `OutputEvent.Changes`.
- `Display.Leads`: events that lead from one display to another.
- `leads_drive`, `leads_write`: driving a latch, and writing to a chip.
- `Board.told`: the events that were taken and those still queued.
- `leads_perform`, `leads_after`, and `output_events_complete`.
-/

namespace Arcade

/-- What the outputs show. -/
structure Display where
  lamps : Pair Bool
  coinLockout : Bool
  coinCounters : Pair UInt32
  deriving DecidableEq, Repr

/-- What the outputs show. -/
def Outputs.display (o : Outputs) : Display := ⟨o.lamps, o.coinLockout, o.coinCounters⟩

namespace Display

/-- What is shown after an event. -/
def react (d : Display) : OutputEvent → Display
  | .lamp i on => { d with lamps := d.lamps.set i on }
  | .coinLockout on => { d with coinLockout := on }
  | .coinCounter i => { d with coinCounters := d.coinCounters.set i (d.coinCounters.get i + 1) }

/-- What is shown after some events. -/
def follow (d : Display) (events : List OutputEvent) : Display := events.foldl react d

end Display

/-- Whether an event about a lamp or the lockout changes what is shown. A count is always worth telling. -/
def OutputEvent.Changes (d : Display) : OutputEvent → Prop
  | .lamp i on => d.lamps.get i ≠ on
  | .coinLockout on => d.coinLockout ≠ on
  | .coinCounter _ => True

namespace Display

/-- Events that lead from one display to another, each of them changing something. -/
inductive Leads : Display → List OutputEvent → Display → Prop
  | nil (d : Display) : Leads d [] d
  | cons {d d' : Display} {e : OutputEvent} {events : List OutputEvent} (changes : e.Changes d)
    (rest : Leads (d.react e) events d') : Leads d (e :: events) d'

namespace Leads

variable {d d' d'' : Display} {events later : List OutputEvent} {e : OutputEvent}

theorem one (changes : e.Changes d) : Leads d [e] (d.react e) := .cons changes (.nil _)

theorem append (h : Leads d events d') (hlater : Leads d' later d'') : Leads d (events ++ later) d'' := by
  induction h with
  | nil d => exact hlater
  | cons changes _ ih => exact .cons changes (ih hlater)

theorem follow_eq (h : Leads d events d') : d.follow events = d' := by
  induction h with
  | nil d => rfl
  | cons _ _ ih => exact ih

/-- Each event changes what those before it have led to. -/
theorem changes_of_split (h : Leads d events d') {before : List OutputEvent}
    (hsplit : events = before ++ e :: later) : e.Changes (d.follow before) := by
  induction h generalizing before with
  | nil d => cases before <;> cases hsplit
  | cons changes _ ih =>
    cases before with
    | nil =>
      cases hsplit
      exact changes
    | cons first before =>
      cases hsplit
      exact ih rfl

end Leads

end Display

/-! ## Outputs -/

namespace Outputs

theorem leads_driveLamp (o : Outputs) (i : Fin 2) (on : Bool) :
    o.display.Leads (o.driveLamp i on).2 (o.driveLamp i on).1.display := by
  unfold driveLamp
  by_cases hon : o.lamps.get i = on
  · rw [if_pos hon]
    exact .nil _
  · rw [if_neg hon]
    exact .one hon

theorem leads_driveLockout (o : Outputs) (on : Bool) :
    o.display.Leads (o.driveLockout on).2 (o.driveLockout on).1.display := by
  unfold driveLockout
  by_cases hon : o.coinLockout = on
  · rw [if_pos hon]
    exact .nil _
  · rw [if_neg hon]
    exact .one hon

theorem leads_driveCounter (o : Outputs) (i : Fin 2) (level : Bool) :
    o.display.Leads (o.driveCounter i level).2 (o.driveCounter i level).1.display := by
  unfold driveCounter
  by_cases hrises : (level && !o.counterInputs.get i) = true
  · rw [if_pos hrises]
    exact .one trivial
  · rw [if_neg hrises]
    exact .nil _

/-- **Driving a latch tells what it changes**, whichever output that is. -/
theorem leads_drive (o : Outputs) (latch : OutputLatch) (data : UInt8) :
    o.display.Leads (o.drive latch data).2 (o.drive latch data).1.display := by
  cases latch with
  | lamps =>
    have hfirst := o.leads_driveLamp 0 (data &&& 0x01 ≠ 0)
    have hsecond := (o.driveLamp 0 (data &&& 0x01 ≠ 0)).1.leads_driveLamp 1 (data &&& 0x02 ≠ 0)
    have hlockout := ((o.driveLamp 0 (data &&& 0x01 ≠ 0)).1.driveLamp 1
      (data &&& 0x02 ≠ 0)).1.leads_driveLockout (data &&& 0x04 ≠ 0)
    exact ((hfirst.append hsecond).append hlockout).append (leads_driveCounter _ 0 _)
  | counter => exact o.leads_driveCounter 1 _

end Outputs

/-! ## The bank of chips -/

namespace IoBank

/-- What a write to a chip tells goes behind the events that are queued. -/
theorem leads_write (b : IoBank) (slot register : Nat) (data : UInt8) :
    ∃ new, (b.write slot register data).1.events.toList = b.events.toList ++ new ∧
      b.outputs.display.Leads new (b.write slot register data).1.outputs.display := by
  have hsame : ∃ new, b.events.toList = b.events.toList ++ new ∧
      b.outputs.display.Leads new b.outputs.display := ⟨[], (List.append_nil _).symm, .nil _⟩
  unfold write
  cases b.slot? slot with
  | none => exact hsame
  | some s =>
    dsimp only
    cases s.chip.sink (register % 2) data with
    | mk latch notices =>
      cases latch with
      | none => exact hsame
      | some latch =>
        exact ⟨(b.outputs.drive latch data).2, Array.toList_appendList, b.outputs.leads_drive latch data⟩

end IoBank

/-! ## Boards -/

/-- The events that an operation took from the queue. -/
def Answer.taken : Answer → List OutputEvent
  | .events taken => taken
  | _ => []

namespace Board

variable {S : Type} [SoundChip S]

/-- What a history has told: the events that were taken, and those still queued. -/
def told (b : Board S) (ops : List Operation) : List OutputEvent :=
  (b.answers ops).flatMap Answer.taken ++ (b.after ops).io.events.toList

/-- Some events more than those queued before lead from what was shown before to what is shown after. -/
def TellsMore (b : Board S) (taken : List OutputEvent) (c : Board S) : Prop :=
  ∃ new, taken ++ c.io.events.toList = b.io.events.toList ++ new ∧
    b.io.outputs.display.Leads new c.io.outputs.display

omit [SoundChip S] in
/-- What leaves the outputs and the queue alone has nothing to tell. -/
theorem tellsMore_of_same {b c : Board S} (houtputs : c.io.outputs = b.io.outputs)
    (hevents : c.io.events = b.io.events) : b.TellsMore [] c := by
  unfold TellsMore
  rw [houtputs, hevents]
  exact ⟨[], (List.append_nil _).symm, .nil _⟩

omit [SoundChip S] in
theorem TellsMore.trans {b c d : Board S} {taken later : List OutputEvent} (h : b.TellsMore taken c)
    (hlater : c.TellsMore later d) : b.TellsMore (taken ++ later) d := by
  obtain ⟨new, hnew, hleads⟩ := h
  obtain ⟨more, hmore, hleads'⟩ := hlater
  refine ⟨new ++ more, ?_, hleads.append hleads'⟩
  rw [List.append_assoc, hmore, ← List.append_assoc, hnew, List.append_assoc]

theorem tellsMore_write (b : Board S) (p : Processor) (a : UInt16) (data : UInt8) :
    b.TellsMore [] (b.write p a data) := by
  obtain ⟨j, hj⟩ := b.write_eq p a data
  rw [hj]
  cases AddressMap.decode p a .write with
  | io slot register => exact b.io.leads_write slot.val register.val data
  | control s =>
    obtain ⟨_, io, _, _, _, _, _, hb, hio⟩ := b.control_changes p s data
    dsimp only
    rw [hb]
    rcases hio with rfl | ⟨asserted, rfl⟩ <;> exact tellsMore_of_same rfl rfl
  | watchdog => cases p <;> exact tellsMore_of_same rfl rfl
  | ram _ | rom _ | unmapped => exact tellsMore_of_same rfl rfl

theorem tellsMore_machineReset (b : Board S) : b.TellsMore [] b.machineReset := by
  obtain ⟨j, hj⟩ := b.machineReset_eq
  rw [hj]
  exact tellsMore_of_same rfl rfl

theorem tellsMore_frameSync (b : Board S) : b.TellsMore [] b.frameSync.2 := by
  have hticked : b.TellsMore [] b.vblank.ticked := tellsMore_of_same rfl rfl
  rw [frameSync_eq]
  cases b.expired with
  | none => exact hticked
  | some p =>
    have hcounted : b.TellsMore [] (b.vblank.ticked.countReset p) := hticked
    exact hcounted.trans (tellsMore_machineReset _)

/-- **Every operation tells what it changes.** -/
theorem tellsMore_perform (b : Board S) (op : Operation) :
    b.TellsMore (b.perform op).1.taken (b.perform op).2 := by
  cases op with
  | read p a =>
    obtain ⟨main, sound, counts, j, hj⟩ := b.read_changes p a
    show b.TellsMore [] (b.read p a).2
    rw [hj]
    exact tellsMore_of_same rfl rfl
  | write p a data => exact b.tellsMore_write p a data
  | frameSync => exact b.tellsMore_frameSync
  | machineReset => exact b.tellsMore_machineReset
  | takeEvents => exact ⟨[], rfl, .nil _⟩
  | configureSlot slot spec wiring =>
    have htaken : (b.perform (.configureSlot slot spec wiring)).1.taken = [] := by
      obtain hdone | ⟨problem, hrefused⟩ := b.configureSlot_answer slot spec wiring
      · rw [hdone]; rfl
      · rw [hrefused]; rfl
    obtain ⟨io, j, hb, hio⟩ := b.perform_configureSlot slot spec wiring
    rw [htaken, hb]
    rcases hio with rfl | ⟨io', hconfigure, rfl⟩
    · exact tellsMore_of_same rfl rfl
    · obtain ⟨houtputs, hevents⟩ := IoBank.configure_outputs hconfigure
      exact tellsMore_of_same houtputs hevents
  | loadRom p image =>
    have htaken : (b.perform (.loadRom p image)).1.taken = [] := by
      obtain hdone | ⟨problem, hrefused⟩ := b.loadRom_answer p image
      · rw [hdone]; rfl
      · rw [hrefused]; rfl
    obtain ⟨roms, loaded, hb⟩ := b.perform_loadRom p image
    rw [htaken, hb]
    exact tellsMore_of_same rfl rfl
  | beginFrame | takeReset _ | notePc _ _ | setInput _ _ | press _ _ | unloadRom _ | snapshot _ =>
    exact tellsMore_of_same rfl rfl

/-- **Every history tells what it changes**, whenever the queue was emptied on the way. -/
theorem tellsMore_after (b : Board S) (ops : List Operation) :
    b.TellsMore ((b.answers ops).flatMap Answer.taken) (b.after ops) := by
  induction ops generalizing b with
  | nil => exact tellsMore_of_same rfl rfl
  | cons op ops ih =>
    rw [answers, List.flatMap_cons]
    exact (b.tellsMore_perform op).trans (ih (b.perform op).2)

/-- **The output events lose and repeat nothing.** On a board that was switched on, and after whatever was
done to it since, short of restoring a saved state, take all events that were taken from the queue and
then those that are still in it. Applied in this order to outputs at rest, they give what the lamps, the
lockout and the counters show now, and each of them about a lamp or the lockout changes what it is about. -/
theorem output_events_complete {layout : IoLayout} {inputs : Inputs} {frames : UInt32} {sound : S}
    {b : Board S} (h : powerOn layout inputs frames sound = .ok b) (ops : List Operation) :
    (b.after ops).io.outputs.display = Outputs.idle.display.follow (b.told ops) ∧
      ∀ before e later, b.told ops = before ++ e :: later →
        e.Changes (Outputs.idle.display.follow before) := by
  rw [powerOn_eq] at h
  cases h
  obtain ⟨new, hnew, hleads⟩ := (stock layout inputs frames sound).tellsMore_after ops
  -- nothing is queued and nothing is lit when the board is switched on
  obtain rfl : (stock layout inputs frames sound).told ops = new := hnew
  exact ⟨hleads.follow_eq.symm, fun before e later hsplit => hleads.changes_of_split hsplit⟩

/-- Main lights a lamp and counts a coin; the events are taken, and the lamp goes out. Three events have
been told, one of them still queued, and they give what is shown. -/
theorem output_events_complete_coin :
    let layout : IoLayout := ⟨⟨⟨.playerCoin, .part56⟩, ⟨.dipSwitch, .part58⟩⟩, true⟩
    let ops : List Operation :=
      [.write .main 0x9000 0, .write .main 0x6800 1, .takeEvents, .machineReset, .write .main 0x9000 0,
        .write .main 0x6800 0]
    ∃ b, powerOn layout (.atRest 0xFF 0xF8) 8 SoundRegisters.silent = .ok b ∧
      b.told ops = [.lamp 0 true, .coinCounter 0, .lamp 0 false] ∧
      (b.after ops).io.outputs.display = ⟨⟨false, false⟩, false, ⟨1, 0⟩⟩ := by
  intro layout ops
  have hb := powerOn_eq layout (.atRest 0xFF 0xF8) 8 SoundRegisters.silent
  refine ⟨_, hb, by decide +kernel, ?_⟩
  rw [(output_events_complete hb ops).1]
  decide +kernel

end Board

end Arcade
