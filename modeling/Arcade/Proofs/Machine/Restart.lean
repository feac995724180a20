import Arcade.Interpreter.Scripted
import Arcade.Proofs.Board.Effect
import Arcade.Proofs.Machine.Watched
import Arcade.Proofs.Memory.Decode

/-!
# `Arcade.Proofs.Machine.Restart` — nothing runs while held, or goes on after it without a reset

A turn asks once whether a processor is held, and steps through its accesses without asking again; and a
reset travels through a flag of the board that is looked at between turns. Two facts make this enough.
No processor can reach what holds it: main is never held, and only main reaches the reset line of the
others. And a flag is up from the moment at which a reset becomes due, however short the pulse, until
the interpreter is reset.

So the trace is followed with the flags alone (`Tracks`): a processor whose flag is down has been reset
since anything last happened to it. Flags only go up during a turn, and are all down between turns.

## Contents
- `Settled`, `Orderly`: what is asked of a trace.
- `Tracks`, and what an event does to it.
- `Board.Accessed`: what an access of a processor can do to the flags and to what is held.
- `Machine.Ready`, and the trace of a turn, a slice and a frame.
- `Cabinet.resets_precede_steps`.
-/

namespace Arcade

/-- A processor has been reset, and nothing has called for a reset since. -/
def Settled (p : Processor) (trace : List Event) : Prop :=
  ∃ before after, trace = before ++ .reset p :: after ∧ ∀ e ∈ after, e.disturbs p = false

/-- Every step was taken by a processor that was settled and not held. -/
def Orderly (trace : List Event) : Prop :=
  ∀ before p held after, trace = before ++ .step p held :: after → held = false ∧ Settled p before

/-- A trace together with the flags of the resets that are due at its end. -/
structure Tracks (trace : List Event) (due : PerProcessor Bool) : Prop where
  orderly : Orderly trace
  settled : ∀ p, due.get p = false → Settled p trace

/-! ## Traces -/

section Trace

variable {trace : List Event} {p : Processor} {e : Event}

theorem Settled.reset (p : Processor) (trace : List Event) : Settled p (trace ++ [.reset p]) :=
  ⟨trace, [], rfl, nofun⟩

theorem Settled.snoc (h : Settled p trace) (he : e.disturbs p = false) : Settled p (trace ++ [e]) := by
  obtain ⟨before, after, rfl, hcalm⟩ := h
  refine ⟨before, after ++ [e], by simp, ?_⟩
  intro d hd
  rcases List.mem_append.mp hd with hd | hd
  · exact hcalm d hd
  · obtain rfl := List.mem_singleton.mp hd
    exact he

/-- A settled processor was reset after whatever called for it. -/
theorem Settled.reset_mem {before after : List Event} (h : Settled p (before ++ e :: after))
    (he : e.disturbs p = true) : .reset p ∈ after := by
  obtain ⟨pre, post, heq, hcalm⟩ := h
  rcases List.append_eq_append_iff.mp heq with ⟨as, rfl, has⟩ | ⟨bs, rfl, hbs⟩
  · cases as with
    | nil =>
      -- the event would be the reset itself
      obtain ⟨rfl, _⟩ := List.cons.inj has
      cases he
    | cons a as =>
      obtain ⟨_, rfl⟩ := List.cons.inj has
      exact List.mem_append_right _ List.mem_cons_self
  · cases bs with
    | nil =>
      obtain ⟨rfl, _⟩ := List.cons.inj hbs
      cases he
    | cons b bs =>
      obtain ⟨_, rfl⟩ := List.cons.inj hbs
      have hcalm' := hcalm e (List.mem_append_right _ List.mem_cons_self)
      rw [he] at hcalm'
      cases hcalm'

theorem Orderly.snoc (h : Orderly trace)
    (he : ∀ p held, e = .step p held → held = false ∧ Settled p trace) : Orderly (trace ++ [e]) := by
  intro before p held after heq
  rcases List.append_eq_append_iff.mp heq with ⟨as, rfl, has⟩ | ⟨bs, rfl, hbs⟩
  · cases as with
    | nil =>
      obtain ⟨rfl, _⟩ := List.cons.inj has
      rw [List.append_nil]
      exact he p held rfl
    | cons a as =>
      have hlen := congrArg List.length has
      simp at hlen
  · cases bs with
    | nil =>
      obtain ⟨hstep, _⟩ := List.cons.inj hbs
      rw [List.append_nil] at he
      exact he p held hstep.symm
    | cons b bs =>
      obtain ⟨rfl, _⟩ := List.cons.inj hbs
      exact h before p held bs rfl

end Trace

namespace Tracks

variable {trace : List Event} {due due' : PerProcessor Bool}

/-- Before anything has happened no processor is settled, so all the flags have to be up. -/
theorem nil (h : ∀ p, due.get p = true) : Tracks [] due where
  orderly before p held after heq := by simp at heq
  settled p hp := absurd ((h p).symm.trans hp) Bool.false_ne_true.symm

/-- Flags may go up at any time. -/
theorem raise (h : Tracks trace due) (hdue : ∀ p, due'.get p = false → due.get p = false) :
    Tracks trace due' := ⟨h.orderly, fun p hp => h.settled p (hdue p hp)⟩

/-- An event other than a step is tracked if the processors that it disturbs have their flags up. -/
theorem snoc {e : Event} (h : Tracks trace due) (he : ∀ p held, e ≠ .step p held)
    (hdue : ∀ p, due.get p = false → e.disturbs p = false) : Tracks (trace ++ [e]) due where
  orderly := h.orderly.snoc fun p held heq => absurd heq (he p held)
  settled p hp := (h.settled p hp).snoc (hdue p hp)

/-- A step is tracked if the processor is not held and has no reset coming. -/
theorem step {p : Processor} {held : Bool} (h : Tracks trace due) (hheld : held = false)
    (hp : due.get p = false) : Tracks (trace ++ [.step p held]) due where
  orderly := h.orderly.snoc fun q held' heq => by
    cases heq
    exact ⟨hheld, h.settled p hp⟩
  settled q hq := (h.settled q hq).snoc rfl

/-- The reset of an interpreter takes its flag down. -/
theorem reset {p : Processor} (h : Tracks trace due) :
    Tracks (trace ++ [.reset p]) (due.set p false) where
  orderly := h.orderly.snoc nofun
  settled q hq := by
    rw [PerProcessor.get_set] at hq
    by_cases hpq : p = q
    · subst hpq
      exact Settled.reset p trace
    · rw [if_neg hpq] at hq
      exact (h.settled q hq).snoc rfl

end Tracks

/-! ## Accesses -/

namespace Board

variable {S : Type} {b b' : Board S} {p : Processor}

/-- What an access of a processor can do: it may raise flags, and has to if it asserts the reset line of
sub and sound; but it changes neither the processor's own flag nor whether the processor is held. -/
structure Accessed (p : Processor) (b b' : Board S) : Prop where
  due_mono : ∀ q, b'.pendingReset.get q = false → b.pendingReset.get q = false
  due_edge : b.controls.secondariesHeld = false → b'.controls.secondariesHeld = true →
    ∀ q, q ≠ .main → b'.pendingReset.get q = true
  due_own : b'.pendingReset.get p = b.pendingReset.get p
  held_own : b'.isHeld p = b.isHeld p

theorem Accessed.of_eq (hdue : b'.pendingReset = b.pendingReset)
    (hheld : b'.controls.secondariesHeld = b.controls.secondariesHeld) : b.Accessed p b' where
  due_mono q hq := by rwa [hdue] at hq
  due_edge hb hb' := absurd (hb'.symm.trans (hheld.trans hb)) Bool.false_ne_true.symm
  due_own := by rw [hdue]
  held_own := by cases p with
    | main => rfl
    | sub | sound => exact hheld

theorem serviceWatchdog_accessed (b : Board S) (p : Processor) : b.Accessed p (b.serviceWatchdog p) := by
  cases p <;> exact .of_eq rfl rfl

theorem read_accessed (b : Board S) (p : Processor) (a : UInt16) : b.Accessed p (b.read p a).2 := by
  obtain ⟨j, hj⟩ := b.read_snd p a
  rw [hj]
  cases AddressMap.decode p a .read with
  | ram _ | rom _ | io _ _ | control _ | unmapped => exact .of_eq rfl rfl
  | watchdog => exact { b.serviceWatchdog_accessed p with }

variable [SoundChip S]

/-- Main may pull the reset line of the others: when it asserts the line, their flags go up. -/
theorem holdSecondaries_accessed (b : Board S) (asserted : Bool) :
    b.Accessed .main (b.holdSecondaries asserted) := by
  rw [holdSecondaries_eq]
  cases he : b.assertsHold asserted with
  | false =>
    refine ⟨fun q hq => hq, ?_, rfl, rfl⟩
    intro hb hb'
    have hasserted : asserted = true := hb'
    rw [assertsHold, hb, hasserted] at he
    cases he
  | true =>
    refine ⟨?_, ?_, rfl, rfl⟩
    · intro q hq
      cases q with
      | main => exact hq
      | sub | sound => cases hq
    · intro _ _ q hq
      cases q with
      | main => exact absurd rfl hq
      | sub | sound => rfl

theorem control_accessed (b : Board S) (s : Switch) (data : UInt8)
    (hs : ∀ release, s = .secondaries release → p = .main) : b.Accessed p (b.control p s data) := by
  cases s with
  | interrupt q enable =>
    obtain ⟨j, hj⟩ := b.switchInterrupt_eq q enable
    show b.Accessed p (b.switchInterrupt q enable)
    rw [hj]
    exact .of_eq rfl rfl
  | secondaries release =>
    -- the one register that concerns other processors
    obtain rfl := hs release rfl
    exact b.holdSecondaries_accessed (!release)
  | ioChips release =>
    obtain ⟨j, hj⟩ := b.holdChips_eq p (!release)
    show b.Accessed p (b.holdChips p (!release))
    rw [hj]
    exact .of_eq rfl rfl
  | starfield register => exact .of_eq rfl rfl

theorem write_accessed (b : Board S) (p : Processor) (a : UInt16) (data : UInt8) :
    b.Accessed p (b.write p a data) := by
  obtain ⟨j, hj⟩ := b.write_eq p a data
  rw [hj]
  cases hd : AddressMap.decode p a .write with
  | ram _ | rom _ | io _ _ | unmapped => exact .of_eq rfl rfl
  | watchdog => exact b.serviceWatchdog_accessed p
  | control s =>
    exact b.control_accessed s data fun release hs => AddressMap.decode_secondaries (hs ▸ hd)

/-! ## Resets of the machine -/

@[simp] theorem pendingReset_machineReset (b : Board S) : b.machineReset.pendingReset = .replicate true := by
  obtain ⟨j, hj⟩ := b.machineReset_eq
  rw [hj]

/-- The end of a frame changes flags and the reset line only if a watchdog expires. -/
theorem frameSync_flags (b : Board S) :
    (b.frameSync.1.watchdogReset.isSome = false →
      b.frameSync.2.pendingReset = b.pendingReset ∧
        b.frameSync.2.controls.secondariesHeld = b.controls.secondariesHeld) ∧
      (b.frameSync.1.watchdogReset.isSome = true → b.frameSync.2.pendingReset = .replicate true) := by
  rw [frameSync_watchdogReset, frameSync_eq]
  cases b.expired with
  | none => exact ⟨fun _ => ⟨rfl, rfl⟩, nofun⟩
  | some p => exact ⟨nofun, fun _ => pendingReset_machineReset _⟩

end Board

section Run

variable {S : Type} [SoundChip S] {trace : List Event} {p : Processor}

omit [SoundChip S] in
/-- The edge that an access makes is tracked by the flags that the access raises. -/
theorem Tracks.access {b b' : Board S} (h : Tracks trace b.pendingReset) (hb : b.Accessed p b') :
    Tracks (trace ++ b.edge b') b'.pendingReset := by
  have hraised := h.raise hb.due_mono
  unfold Board.edge
  split
  · next hedge =>
    rw [Bool.and_eq_true, Bool.not_eq_true'] at hedge
    refine hraised.snoc nofun ?_
    intro q hq
    cases q with
    | main => rfl
    | sub => exact absurd (hq.symm.trans (hb.due_edge hedge.1 hedge.2 .sub nofun)) Bool.false_ne_true
    | sound => exact absurd (hq.symm.trans (hb.due_edge hedge.1 hedge.2 .sound nofun)) Bool.false_ne_true
  · rw [List.append_nil]
    exact hraised

/-- The accesses of a step are tracked one by one, and end where the processor is as free as before. -/
theorem Tracks.accesses {α : Type} (program : BusProgram α) {b : Board S}
    (h : Tracks trace b.pendingReset) :
    Tracks (trace ++ program.edges p b) (program.run (Board.bus p) b).2.pendingReset ∧
      (program.run (Board.bus p) b).2.pendingReset.get p = b.pendingReset.get p ∧
      (program.run (Board.bus p) b).2.isHeld p = b.isHeld p := by
  induction program generalizing b trace with
  | done a =>
    refine ⟨?_, rfl, rfl⟩
    simp only [BusProgram.edges, List.append_nil]
    exact h
  | read a next ih =>
    -- the level is compared access by access, so each access brings its own edge
    have hb := b.read_accessed p a
    obtain ⟨htracks, hdue, hheld⟩ := ih (b.read p a).1 (h.access hb)
    refine ⟨?_, hdue.trans hb.due_own, hheld.trans hb.held_own⟩
    rw [List.append_assoc] at htracks
    exact htracks
  | write a data next ih =>
    have hb := b.write_accessed p a data
    obtain ⟨htracks, hdue, hheld⟩ := ih (h.access hb)
    refine ⟨?_, hdue.trans hb.due_own, hheld.trans hb.held_own⟩
    rw [List.append_assoc] at htracks
    exact htracks
  | note n next ih => exact ih (b := b.note n) h

end Run

/-! ## Resets of interpreters -/

namespace Machine

variable {σ S : Type} [Interpreter σ] {m : Machine σ S} {trace : List Event}

/-- A processor that may take steps: it is not held and has no reset coming. -/
def Ready (p : Processor) (m : Machine σ S) : Prop :=
  m.board.isHeld p = false ∧ m.board.pendingReset.get p = false

/-- No processor has a reset coming. -/
def Calm (m : Machine σ S) : Prop := ∀ p, m.board.pendingReset.get p = false

@[simp] theorem pendingReset_applyReset (m : Machine σ S) (p : Processor) :
    (m.applyReset p).board.pendingReset = m.board.pendingReset.set p false := by
  unfold applyReset
  dsimp only
  by_cases hdue : (m.board.takeReset p).1 = true
  · rw [if_pos hdue]; rfl
  · rw [if_neg hdue]; rfl

theorem applyReset_tracks (h : Tracks trace m.board.pendingReset) (p : Processor) :
    Tracks (trace ++ m.resetEvent p) (m.applyReset p).board.pendingReset := by
  rw [pendingReset_applyReset]
  unfold resetEvent
  by_cases hdue : (m.board.takeReset p).1 = true
  · rw [if_pos hdue]
    exact h.reset
  · rw [if_neg hdue, List.append_nil]
    apply h.raise
    intro q hq
    rw [PerProcessor.get_set] at hq
    by_cases hpq : p = q
    · subst hpq
      exact Bool.eq_false_iff.mpr hdue
    · rw [if_neg hpq] at hq
      exact hq

/-- Once all interpreters have been reset that have to be, no flag is up. -/
theorem calm_applyResets (m : Machine σ S) : Calm m.applyResets := by
  intro p
  simp only [applyResets, pendingReset_applyReset, PerProcessor.get_set]
  cases p <;> rfl

theorem applyResets_tracks (h : Tracks trace m.board.pendingReset) :
    Tracks (trace ++ m.resetEvents) m.applyResets.board.pendingReset := by
  have hmain := applyReset_tracks h .main
  have hsub := applyReset_tracks hmain .sub
  have hsound := applyReset_tracks hsub .sound
  simp only [List.append_assoc] at hsound
  simp only [resetEvents, List.append_assoc]
  exact hsound

/-! ## Turns -/

variable [SoundChip S]

/-- **A step keeps the trace**, and leaves the processor free to take another. -/
theorem takeStep_tracks {p : Processor} (h : Tracks trace m.board.pendingReset) (hp : Ready p m) :
    Tracks (trace ++ m.stepEvents p) (m.takeStep p).board.pendingReset ∧ Ready p (m.takeStep p) := by
  have hstep := h.step hp.1 hp.2
  obtain ⟨htracks, hdue, hheld⟩ := Tracks.accesses
    (Interpreter.step (Interpreter.setIrqLine (m.interpreters.get p) (m.board.irqLine p)))
    (b := m.board.notePc p (Interpreter.pc
      (Interpreter.setIrqLine (m.interpreters.get p) (m.board.irqLine p)))) hstep
  refine ⟨?_, hheld.trans hp.1, hdue.trans hp.2⟩
  rw [List.append_assoc] at htracks
  exact htracks

/-- All the steps of a turn. -/
theorem spend_tracks (m : Machine σ S) {p : Processor} {trace : List Event}
    (h : Tracks trace m.board.pendingReset) (hp : Ready p m) :
    Tracks (trace ++ m.spendEvents p) (m.spend p).board.pendingReset := by
  fun_induction spend m p generalizing trace with
  | case1 m hcredit ih =>
    obtain ⟨hnext, hready⟩ := takeStep_tracks h hp
    rw [spendEvents, if_pos hcredit, ← List.append_assoc]
    exact ih hnext hready
  | case2 m hcredit =>
    rw [spendEvents, if_neg hcredit, List.append_nil]
    exact h

theorem takeTurn_tracks {p : Processor} (h : Tracks trace m.board.pendingReset) (hcalm : Calm m)
    (budget : Nat) :
    Tracks (trace ++ m.turnEvents p budget) (m.takeTurn p budget).board.pendingReset := by
  unfold turnEvents takeTurn
  cases hheld : m.board.isHeld p with
  | true =>
    simp only [if_true, List.append_nil]
    exact h
  | false =>
    simp only [Bool.false_eq_true, if_false]
    exact spend_tracks _ h ⟨hheld, hcalm p⟩

/-! ## Slices and frames -/

/-- A turn followed by the resets that came up during it. -/
theorem turn_tracks (h : Tracks trace m.board.pendingReset) (hcalm : Calm m) (p : Processor)
    (budget : Nat) :
    Tracks (trace ++ (m.turnEvents p budget ++ (m.takeTurn p budget).resetEvents))
      (m.takeTurn p budget).applyResets.board.pendingReset := by
  rw [← List.append_assoc]
  exact applyResets_tracks (takeTurn_tracks h hcalm budget)

theorem runSlice_tracks (h : Tracks trace m.board.pendingReset) (hcalm : Calm m) (budget : Nat) :
    Tracks (trace ++ m.sliceEvents budget) (m.runSlice budget).board.pendingReset ∧
      Calm (m.runSlice budget) := by
  -- between two turns all flags are down again, which is what the next turn relies on
  have hmain := turn_tracks h hcalm .main budget
  have hsub := turn_tracks hmain (calm_applyResets _) .sub budget
  have hsound := turn_tracks hsub (calm_applyResets _) .sound budget
  refine ⟨?_, calm_applyResets _⟩
  simp only [List.append_assoc] at hsound
  simp only [sliceEvents, List.append_assoc]
  exact hsound

/-- **A whole run of slices keeps the trace.** -/
theorem slices_track (h : Tracks trace m.board.pendingReset) (hcalm : Calm m) (budgets : List Nat) :
    Tracks (trace ++ m.slicesEvents budgets) (budgets.foldl runSlice m).board.pendingReset ∧
      Calm (budgets.foldl runSlice m) := by
  induction budgets generalizing m trace with
  | nil =>
    simp only [slicesEvents, List.append_nil]
    exact ⟨h, hcalm⟩
  | cons budget budgets ih =>
    obtain ⟨hslice, hcalm'⟩ := runSlice_tracks h hcalm budget
    have hrest := ih hslice hcalm'
    rw [List.append_assoc] at hrest
    exact hrest

theorem runFrame_tracks (h : Tracks trace m.board.pendingReset) :
    Tracks (trace ++ m.frameEvents) m.runFrame.board.pendingReset := by
  have hsync : Calm m.syncLines := calm_applyResets m
  have hresets : Tracks (trace ++ m.resetEvents) m.syncLines.board.pendingReset := applyResets_tracks h
  have hslices := (slices_track hresets hsync (budgets m.slice frameCycles)).1
  rw [List.append_assoc] at hslices
  exact hslices

end Machine

/-! ## Cabinets -/

namespace Cabinet

variable {σ S : Type}

/-- A cabinet that has just been put together has resets coming for every processor. -/
theorem pendingReset_assemble {config : Config} {interpreters : PerProcessor σ} {sound : S}
    {journal : Journal} {s : Cabinet σ S}
    (h : assemble config interpreters sound journal = .ok s) :
    s.board.pendingReset = .replicate true := by
  obtain ⟨r, -, rfl⟩ := assemble_eq_ok h
  rfl

variable [Interpreter σ] {trace : List Event}

/-- A machine whose board is replaced is tracked if flags only go up, all of them for a reset of the
machine, and those of sub and sound for an edge of their reset line. -/
theorem changeEvents_track {m : Machine σ S} {board : Board S} {machineReset : Bool}
    (h : Tracks trace m.board.pendingReset)
    (hkeep : machineReset = false → board.pendingReset = m.board.pendingReset ∧
      board.controls.secondariesHeld = m.board.controls.secondariesHeld)
    (hreset : machineReset = true → board.pendingReset = .replicate true) :
    Tracks (trace ++ changeEvents m board machineReset)
      ({ m with board := board } : Machine σ S).applyResets.board.pendingReset := by
  unfold changeEvents
  rw [← List.append_assoc]
  apply Machine.applyResets_tracks (m := { m with board := board })
  show Tracks _ board.pendingReset
  cases hm : machineReset with
  | false =>
    obtain ⟨hdue, hheld⟩ := hkeep hm
    simp only [Bool.false_eq_true, if_false, List.append_nil]
    exact h.access (p := .main) (.of_eq hdue hheld)
  | true =>
    have hup : ∀ p, board.pendingReset.get p = true := by
      intro p
      rw [hreset hm]
      exact PerProcessor.get_replicate true p
    have hnone : ∀ p, board.pendingReset.get p = false → False := fun p hp =>
      Bool.false_ne_true (hp.symm.trans (hup p))
    have hraised : Tracks trace board.pendingReset := h.raise fun p hp => (hnone p hp).elim
    have hedge : Tracks (trace ++ m.board.edge board) board.pendingReset := by
      unfold Board.edge
      split
      · exact hraised.snoc nofun fun p hp => (hnone p hp).elim
      · rwa [List.append_nil]
    rw [← List.append_assoc]
    exact hedge.snoc nofun fun p hp => (hnone p hp).elim

variable [SoundChip S]

/-- **Whatever a host asks, the trace is kept.** -/
theorem perform_tracks {s : Cabinet σ S} (h : Tracks trace s.board.pendingReset) (call : Call) :
    Tracks (trace ++ s.callEvents call) (s.perform call).board.pendingReset := by
  cases call with
  | reset => exact changeEvents_track h nofun fun _ => Board.pendingReset_machineReset _
  | stepFrame =>
    have hframe := Machine.runFrame_tracks
      (m := { s.machine with board := s.machine.board.beginFrame }) h
    obtain ⟨hkeep, hreset⟩ := Board.frameSync_flags
      ({ s.machine with board := s.machine.board.beginFrame } : Machine σ S).runFrame.board
    have hsync := changeEvents_track hframe hkeep hreset
    rw [List.append_assoc] at hsync
    exact hsync

/-- The trace of every run is orderly. -/
theorem events_orderly {s : Cabinet σ S} (h : Tracks trace s.board.pendingReset)
    (calls : List Call) : Orderly (trace ++ s.events calls) := by
  induction calls generalizing s trace with
  | nil =>
    rw [events, List.append_nil]
    exact h.orderly
  | cons call calls ih =>
    have hrest := ih (perform_tracks h call)
    rw [List.append_assoc] at hrest
    exact hrest

/-- **No processor runs while it is held, and none goes on after it without a reset.** In every run of
a cabinet, whatever its interpreters do, each step is taken by a processor that is not held; its
interpreter was reset before; and it was reset after everything that called for it, which is each
assertion of the reset line for sub and sound, and each reset of the machine for all. The trace in which
this is said is what the interpreters go through: watched from the outset, the cabinet goes the same way,
and what was done with each interpreter is its part of the trace. -/
theorem resets_precede_steps {config : Config} {interpreters : PerProcessor σ} {sound : S}
    {journal : Journal} {s : Cabinet σ S}
    (h : assemble config interpreters sound journal = .ok s) (calls : List Call) :
    (∃ w : Cabinet (Watched σ) S, assemble config (interpreters.map Watched.start) sound journal = .ok w ∧
      (w.run calls).recast Watched.chip = s.run calls ∧
      ∀ p, (w.run calls).machine.deeds p = (s.events calls).filterMap (Event.deed? p)) ∧
    ∀ before p held after, s.events calls = before ++ .step p held :: after →
      held = false ∧ .reset p ∈ before ∧
        ∀ earlier e later, before = earlier ++ e :: later → e.disturbs p = true → .reset p ∈ later := by
  refine ⟨exists_watched h calls, fun before p held after hstep => ?_⟩
  -- with every flag up nothing has to be settled yet, so the empty trace will do
  have hup : ∀ q, s.board.pendingReset.get q = true := by
    intro q
    rw [pendingReset_assemble h]
    exact PerProcessor.get_replicate true q
  have horderly : Orderly (s.events calls) := events_orderly (Tracks.nil hup) calls
  obtain ⟨hheld, hsettled⟩ := horderly before p held after hstep
  refine ⟨hheld, ?_, ?_⟩
  · obtain ⟨l, r, rfl, _⟩ := hsettled
    exact List.mem_append_right l List.mem_cons_self
  · rintro earlier e later rfl he
    exact hsettled.reset_mem he

/-- Main pulses the reset line of sub and sound within one turn, and both start anew. -/
theorem resets_precede_steps_pulse :
    let config := { Config.standard with sliceCycles := 25344 }
    let main : Script :=
      ⟨[.write 0x8000 0, .write 0x8800 0, .write 0x8000 0], false, #[8448], [], 0⟩
    let waiting : Script := ⟨[], false, #[25344], [], 0⟩
    let scripted : PerProcessor Scripted := ⟨.ofScript main, .ofScript waiting, .ofScript waiting⟩
    let pulsed : List Event :=
      [.reset .main, .reset .sub, .reset .sound, .step .main false, .step .main false, .asserted]
    let restarted : List Event := [.step .main false, .reset .sub, .reset .sound]
    ∃ s, assemble config scripted SoundRegisters.silent .silent = .ok s ∧
      s.events [.stepFrame] = pulsed ++ restarted ++ [.step .sub false, .step .sound false] ∧
      .reset .sub ∈ restarted ∧
      ∃ w, assemble config (scripted.map Watched.start) SoundRegisters.silent .silent = .ok w ∧
        (w.run [.stepFrame]).machine.deeds .sub = [.reset, .reset, .step] := by
  intro config main waiting scripted pulsed restarted
  have hrun : (assemble config scripted SoundRegisters.silent .silent).toOption.map
      (fun s => s.events [.stepFrame]) =
      some (pulsed ++ restarted ++ [.step .sub false, .step .sound false]) := by decide +kernel
  cases hs : assemble config scripted SoundRegisters.silent .silent with
  | error problem => rw [hs] at hrun; cases hrun
  | ok s =>
    rw [hs] at hrun
    have hevents : s.events [.stepFrame] = pulsed ++ restarted ++ [.step .sub false, .step .sound false] :=
      Option.some.inj hrun
    obtain ⟨⟨w, hw, -, hdeeds⟩, hlaw⟩ := resets_precede_steps hs [.stepFrame]
    have hreset := (hlaw _ _ _ _ hevents).2.2
      [.reset .main, .reset .sub, .reset .sound, .step .main false, .step .main false] .asserted
      restarted rfl rfl
    refine ⟨s, rfl, hevents, hreset, w, hw, ?_⟩
    rw [hdeeds, hevents]
    rfl

end Cabinet

end Arcade
