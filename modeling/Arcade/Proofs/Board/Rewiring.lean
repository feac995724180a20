import Arcade.Proofs.Board.Acceptance
import Arcade.Proofs.Board.OutputWrites
import Mathlib.Data.Fin.Tuple.Basic

/-!
# `Arcade.Proofs.Board.Rewiring` — a chip is exchanged whole, alone, or not at all

Putting another chip into a slot sets the reset pins of both chips, the new one and the one that stays. On
a board whose lines agree the chip that stays has its pin at that level already, so that nothing happens
to it; this is where it matters that the board is a reachable one. What can fail is looked at before
anything changes. Here too the steps are written one after the other, so that a failure that comes too
late would show.

From then on the slot reads and writes as it was wired, whatever is done to the board, until another chip
is put there. Saved states do not hold the wiring, so restoring one does not change it.

## Contents
- `Wiring.unbound?`, `IoSlot.build_eq`: what a slot demands of a wiring.
- `Board.configureSlotInPlace`: the steps.
- `Board.withChip`, `configureSlot_cases`: the board with the new chip, and when there is one.
- `Board.WiredAs`, and `wiring_treated`: a wiring stays.
- `Reachable.configureSlot_local`.
-/

namespace Arcade

/-! ## What a slot demands -/

/-- The first read port that is not bound. -/
def Wiring.unbound? (w : Wiring) : Option (Fin 4) := Fin.find? fun i => !(w.reads.get i).isBound

theorem Wiring.unbound?_eq_none_iff {w : Wiring} :
    w.unbound? = none ↔ ∀ i : Fin 4, (w.reads.get i).isBound = true := by
  unfold unbound?
  rw [Fin.find?_eq_none_iff]
  simp only [Bool.not_eq_false']

theorem Wiring.unbound?_eq_some_iff {w : Wiring} {i : Fin 4} :
    w.unbound? = some i ↔ (w.reads.get i).isBound = false ∧ ∀ j < i, (w.reads.get j).isBound = true := by
  unfold unbound?
  rw [Fin.find?_eq_some_iff]
  simp only [Bool.not_eq_true', Bool.not_eq_false']

/-- Demanding read ports reports the first of them that is not bound. -/
theorem IoChip.requireBound_reads {G L : Type} (c : IoChip G L) (ports : List (Fin 4)) :
    c.requireBound (ports.map Fin.val) [] =
      match ports.find? fun i => !(c.reads.get i).isBound with
      | none => .ok ()
      | some i => .error (.unboundRead i) := by
  induction ports with
  | nil => rfl
  | cons i ports ih =>
    have hport : c.reads[i.val]? = some (c.reads.get i) := Vector.getElem?_eq_getElem i.isLt
    unfold requireBound at ih ⊢
    simp only [List.map_cons, List.forM_eq_forM, List.forM_cons, hport, List.find?_cons] at ih ⊢
    cases hbound : (c.reads.get i).isBound with
    | true => exact ih
    | false => rfl

/-- A chip that has just been put into a slot, for a level of the reset line. -/
def IoSlot.fitted (spec : ChipSpec) (w : Wiring) (held : Bool) : IoSlot :=
  { spec := spec
    chip :=
      { label := spec.part.label
        reads := w.reads
        writes := w.writes
        state := { reset := held, irqLine := false, pulses := 0 } } }

/-- **A chip is fitted if its read ports are bound**, and if not, the first that is not bound is reported. -/
theorem IoSlot.build_eq (spec : ChipSpec) (w : Wiring) :
    IoSlot.build spec w =
      match w.unbound? with
      | none => .ok (.fitted spec w true)
      | some i => .error (.unboundRead i) := by
  have hports : (List.finRange 4).map Fin.val = [0, 1, 2, 3] := by decide
  have hdemand := (IoChip.powerOn spec.part.label w.reads w.writes).requireBound_reads (List.finRange 4)
  rw [hports, ← Fin.find?_eq_find?_finRange] at hdemand
  unfold IoSlot.build
  dsimp only
  rw [hdemand]
  show _ = match w.unbound? with
    | none => _
    | some i => _
  have hsame : (Fin.find? fun i => !((IoChip.powerOn spec.part.label w.reads w.writes).reads.get i).isBound) =
    w.unbound? := rfl
  rw [hsame]
  cases w.unbound? with
  | none => rfl
  | some i => rfl

/-! ## The chip that stays -/

/-- Setting the reset pin to the level that it has does nothing. -/
theorem IoChip.setReset_of_follows {G L : Type} {c : IoChip G L} {held : Bool} (h : c.state.Follows held) :
    c.setReset held = c ∧ c.resetNotices held = [] := by
  obtain ⟨label, reads, writes, ⟨reset, irqLine, pulses⟩⟩ := c
  obtain ⟨hreset, hquiet⟩ := h
  dsimp only at hreset hquiet
  subst hreset
  refine ⟨?_, if_pos rfl⟩
  cases reset with
  | false => rfl
  | true =>
    have hlow : irqLine = false := hquiet rfl
    subst hlow
    rfl

/-- What there is to report of a chip that has just been put into a slot. -/
def IoSlot.fittedNotices (spec : ChipSpec) (held : Bool) : List Notice :=
  if held then [] else [.chipReset spec.part.label false]

namespace IoBank

/-- **Setting the reset pins after a chip was put into a slot** concerns the new chip alone, if the chip that
stays has its pin at that level. -/
theorem setReset_fitted (a : IoBank) (i : Fin 2) (spec : ChipSpec) (w : Wiring) {held : Bool}
    (h : a.Follows held) :
    ({ a with slots := a.slots.set i (.fitted spec w true) } : IoBank).setReset held =
      ({ a with slots := a.slots.set i (.fitted spec w held) }, IoSlot.fittedNotices spec held) := by
  obtain ⟨⟨s, t⟩, inputs, outputs, events⟩ := a
  have hs : s.chip.state.Follows held := h 0
  have ht : t.chip.state.Follows held := h 1
  -- the pin of the new chip is at reset before, and only that of the new chip can change
  match i with
  | 0 =>
    obtain ⟨hstays, hsilent⟩ := IoChip.setReset_of_follows ht
    unfold setReset mapChips
    simp only [Pair.set, Pair.modify, Pair.map, hstays, hsilent, List.append_nil]
    cases held <;> rfl
  | 1 =>
    obtain ⟨hstays, hsilent⟩ := IoChip.setReset_of_follows hs
    unfold setReset mapChips
    simp only [Pair.set, Pair.modify, Pair.map, hstays, hsilent, List.nil_append]
    cases held <;> rfl

end IoBank

namespace Board

variable {S : Type}

/-! ## The steps -/

/-- Puts another chip into a slot, step by step. -/
def configureSlotInPlace (slot : Nat) (spec : ChipSpec) (w : Wiring) : EStateM SlotProblem (Board S) Unit := do
  if h : slot < 2 then
    let fitted ← attempt ((IoSlot.build spec w).mapError SlotProblem.ports)
    modify fun b => { b with io := { b.io with slots := b.io.slots.set ⟨slot, h⟩ fitted } }
    modify fun b =>
      ({ b with io := (b.io.setReset b.controls.chipsHeld).1 } : Board S).noteAll
        (b.io.setReset b.controls.chipsHeld).2
  else throw (.noSlot slot)

/-- The steps put the chip into its slot, or stop with the board as it was. -/
theorem configureSlotInPlace_eq (slot : Nat) (spec : ChipSpec) (w : Wiring) (b : Board S) :
    configureSlotInPlace slot spec w b = outcome b (b.configureSlot slot spec w) := by
  unfold configureSlotInPlace configureSlot IoBank.configure
  by_cases hslot : slot < 2
  · rw [dif_pos hslot, dif_pos hslot]
    cases IoSlot.build spec w with
    | error problem => rfl
    | ok fitted => rfl
  · rw [dif_neg hslot, dif_neg hslot]
    rfl

/-- The board with another chip in a slot, at the level of the reset line. -/
def withChip (b : Board S) (slot : Fin 2) (spec : ChipSpec) (w : Wiring) : Board S :=
  { b with
    io := { b.io with slots := b.io.slots.set slot (.fitted spec w b.controls.chipsHeld) }
    journal := b.journal.noteAll (IoSlot.fittedNotices spec b.controls.chipsHeld) }

/-- **What putting a chip into a slot comes to**, if both chips are at the level of their reset line. -/
theorem configureSlot_cases {b : Board S} (h : b.io.Follows b.controls.chipsHeld) (slot : Nat)
    (spec : ChipSpec) (w : Wiring) :
    (∃ hslot : slot < 2, w.unbound? = none ∧
        b.configureSlot slot spec w = .ok (b.withChip ⟨slot, hslot⟩ spec w)) ∨
      (∃ i, slot < 2 ∧ w.unbound? = some i ∧
        b.configureSlot slot spec w = .error (.ports (.unboundRead i))) ∨
      (2 ≤ slot ∧ b.configureSlot slot spec w = .error (.noSlot slot)) := by
  unfold configureSlot IoBank.configure
  by_cases hslot : slot < 2
  · rw [dif_pos hslot, IoSlot.build_eq]
    cases hbound : w.unbound? with
    | none =>
      have hpins := b.io.setReset_fitted ⟨slot, hslot⟩ spec w h
      dsimp only
      rw [hpins]
      exact .inl ⟨hslot, rfl, rfl⟩
    | some i => exact .inr (.inl ⟨i, hslot, rfl, rfl⟩)
  · rw [dif_neg hslot]
    exact .inr (.inr ⟨Nat.le_of_not_lt hslot, rfl⟩)

section Outcome

variable {b b' : Board S} {slot : Nat} {spec : ChipSpec} {w : Wiring}

theorem exists_configureSlot_iff (h : b.io.Follows b.controls.chipsHeld) :
    (∃ b', b.configureSlot slot spec w = .ok b') ↔ slot < 2 ∧ ∀ i : Fin 4, (w.reads.get i).isBound = true := by
  rw [← Wiring.unbound?_eq_none_iff]
  rcases configureSlot_cases h slot spec w with
    ⟨hslot, hbound, hb⟩ | ⟨i, hslot, hbound, hb⟩ | ⟨hslot, hb⟩
  · exact ⟨fun _ => ⟨hslot, hbound⟩, fun _ => ⟨_, hb⟩⟩
  · rw [hb, hbound]
    exact ⟨fun ⟨_, hfitted⟩ => (nomatch hfitted), fun ⟨_, hnone⟩ => (nomatch hnone)⟩
  · rw [hb]
    exact ⟨fun ⟨_, hfitted⟩ => (nomatch hfitted), fun ⟨hfound, _⟩ => absurd hslot (Nat.not_le.mpr hfound)⟩

theorem configureSlot_eq_error_iff (h : b.io.Follows b.controls.chipsHeld) {problem : SlotProblem} :
    b.configureSlot slot spec w = .error problem ↔
      (2 ≤ slot ∧ problem = .noSlot slot) ∨
        slot < 2 ∧ ∃ i : Fin 4, problem = .ports (.unboundRead i) ∧ (w.reads.get i).isBound = false ∧
          ∀ j < i, (w.reads.get j).isBound = true := by
  simp only [← Wiring.unbound?_eq_some_iff]
  rcases configureSlot_cases h slot spec w with
    ⟨hslot, hbound, hb⟩ | ⟨i, hslot, hbound, hb⟩ | ⟨hslot, hb⟩
  · rw [hb, hbound]
    constructor
    · intro hproblem
      cases hproblem
    · rintro (⟨hnone, -⟩ | ⟨-, i, -, hi⟩)
      · omega
      · cases hi
  · rw [hb, hbound]
    constructor
    · intro hproblem
      cases hproblem
      exact .inr ⟨hslot, i, rfl, rfl⟩
    · rintro (⟨hnone, -⟩ | ⟨-, j, rfl, hj⟩)
      · omega
      · cases hj
        rfl
  · rw [hb]
    constructor
    · intro hproblem
      cases hproblem
      exact .inl ⟨hslot, rfl⟩
    · rintro (⟨-, rfl⟩ | ⟨hfound, -⟩)
      · rfl
      · omega

theorem configureSlot_eq_withChip (h : b.io.Follows b.controls.chipsHeld)
    (hb : b.configureSlot slot spec w = .ok b') : ∃ hslot : slot < 2, b' = b.withChip ⟨slot, hslot⟩ spec w := by
  rcases configureSlot_cases h slot spec w with
    ⟨hslot, hbound, hfitted⟩ | ⟨i, hslot, hbound, hfitted⟩ | ⟨hslot, hfitted⟩
  · exact ⟨hslot, Except.ok.inj (hb.symm.trans hfitted)⟩
  · exact nomatch hb.symm.trans hfitted
  · exact nomatch hb.symm.trans hfitted

end Outcome

end Board

/-! ## From then on -/

/-- What a read port reads, given the input bytes. -/
def ReadPort.value {G : Type} (sample : G → UInt8) : ReadPort G → UInt8
  | .unbound => IoChip.quiescent
  | .input group nibble => nibble.extract (sample group)

/-- The latch that a write port drives. -/
def WritePort.latch? {L : Type} : WritePort L → Option L
  | .unbound => none
  | .drive latch => some latch

namespace Board

variable {S : Type} [SoundChip S]

/-- **A slot reads and writes as a wiring says.** A chip in reset reads as an undriven port and drives
nothing. Otherwise two address lines choose among the read ports and one among the write ports, and a
write goes to the latch of its port. -/
structure WiredAs (b : Board S) (slot : Fin 2) (w : Wiring) : Prop where
  read : ∀ p a register, AddressMap.decode p a .read = .io (slot.castLE (by decide)) register →
    (b.read p a).1 =
      if b.io.isReset slot then IoChip.quiescent
      else (w.reads.get (Fin.ofNat 4 register.val)).value b.io.inputs.get
  write : ∀ p a data register, AddressMap.decode p a .write = .io (slot.castLE (by decide)) register →
    let latch? := if b.io.isReset slot then none else (w.writes.get (Fin.ofNat 2 register.val)).latch?
    ∃ j, b.write p a data =
      { b with
        io :=
          { b.io with
            outputs := (b.io.outputs.offer data latch?).1
            events := b.io.events ++ (b.io.outputs.offer data latch?).2 }
        journal := j }

theorem wiredAs_of_wiring {b : Board S} {slot : Fin 2} {w : Wiring}
    (h : b.io.wiring.get slot = (w.reads, w.writes)) : b.WiredAs slot w := by
  have hslot : b.io.slot? slot = some (b.io.slots.get slot) := b.io.slot?_of_lt slot.isLt
  have hwired : ((b.io.slots.get slot).chip.reads, (b.io.slots.get slot).chip.writes) =
      (w.reads, w.writes) := by
    rw [← h]
    unfold IoBank.wiring
    rw [Pair.get_map]
  obtain ⟨hreads, hwrites⟩ := Prod.mk.inj hwired
  have hreset : b.io.isReset slot = (b.io.slots.get slot).chip.state.reset := by
    unfold IoBank.isReset
    rw [hslot]
  refine { read := ?_, write := ?_ }
  · intro p a register hd
    have hport : w.reads[register.val % 4]? = some (w.reads.get (Fin.ofNat 4 register.val)) :=
      Vector.getElem?_eq_getElem (Nat.mod_lt _ (by decide))
    have hread : (b.read p a).1 = (b.io.read slot register.val).1 := by
      unfold read
      rw [hd]
      rfl
    rw [hread, hreset]
    unfold IoBank.read IoChip.read
    rw [hslot]
    dsimp only
    rw [hreads, hport]
    cases (b.io.slots.get slot).chip.state.reset with
    | true => rfl
    | false => cases w.reads.get (Fin.ofNat 4 register.val) <;> rfl
  · intro p a data register hd latch?
    have hport : w.writes[register.val % 2]? = some (w.writes.get (Fin.ofNat 2 register.val)) :=
      Vector.getElem?_eq_getElem (Nat.mod_lt _ (by decide))
    have hsink : b.io.sink? slot register.val data = latch? := by
      unfold IoBank.sink? IoChip.sink
      rw [hslot, Option.bind_some, hwrites, hport]
      show _ = if b.io.isReset slot then none else (w.writes.get (Fin.ofNat 2 register.val)).latch?
      rw [hreset]
      cases (b.io.slots.get slot).chip.state.reset with
      | true => rfl
      | false => cases w.writes.get (Fin.ofNat 2 register.val) <;> rfl
    obtain ⟨j, hj⟩ := b.write_eq p a data
    rw [hd] at hj
    dsimp only at hj
    have hio := b.io.write_fst slot register.val data
    rw [hsink] at hio
    refine ⟨j, ?_⟩
    rw [hj]
    exact congrArg (fun io => ({ b with io := io, journal := j } : Board S)) hio

end Board

/-- Whether a treatment puts another chip into a slot. -/
def Treatment.fits (slot : Nat) : Treatment → Bool
  | .operation (.configureSlot n _ w) => n = slot && w.unbound?.isNone
  | .operation _ | .restore _ => false

theorem IoBank.configure_eq_ok {a io : IoBank} {slot : Nat} {spec : ChipSpec} {w : Wiring}
    (h : a.configure slot spec w = .ok io) :
    w.unbound? = none ∧ ∃ hslot : slot < 2,
      io = { a with slots := a.slots.set ⟨slot, hslot⟩ (.fitted spec w true) } := by
  unfold configure at h
  split at h
  · next hslot =>
    rw [IoSlot.build_eq] at h
    cases hbound : w.unbound? with
    | none =>
      rw [hbound] at h
      cases h
      exact ⟨rfl, hslot, rfl⟩
    | some i =>
      rw [hbound] at h
      cases h
  · cases h

/-- A saved state does not hold the wiring. -/
theorem IoBank.wiring_restore (a : IoBank) (chips : Pair ChipState) (inputs : Inputs) (outputs : Outputs) :
    (a.restore chips inputs outputs).wiring = a.wiring := rfl

namespace Board

variable {S : Type} [SoundChip S]

/-- Putting a chip into another slot, or failing to, leaves the wiring of a slot as it is. -/
theorem wiring_configureSlot (b : Board S) {n : Nat} {slot : Fin 2} {w : Wiring}
    (h : n = slot → w.unbound? ≠ none) (spec : ChipSpec) :
    (b.perform (.configureSlot n spec w)).2.io.wiring.get slot = b.io.wiring.get slot := by
  obtain ⟨io, j, hb, hio⟩ := b.perform_configureSlot n spec w
  rw [hb]
  rcases hio with rfl | ⟨io', hconfigure, rfl⟩
  · rfl
  · obtain ⟨hbound, hslot, rfl⟩ := IoBank.configure_eq_ok hconfigure
    -- the chip was fitted, so it must have been the other slot; and pins have nothing to do with wiring
    have hother : (⟨n, hslot⟩ : Fin 2) ≠ slot := fun heq => h (congrArg Fin.val heq) hbound
    rw [IoBank.wiring_setReset]
    unfold IoBank.wiring
    rw [Pair.get_map, Pair.get_map, Pair.get_set_of_ne _ _ hother]

/-- One treatment leaves the wiring of a slot as it is, unless it puts a chip there. -/
theorem wiring_treat (b : Board S) {slot : Fin 2} {t : Treatment} (ht : t.fits slot = false) :
    (b.treat t).io.wiring.get slot = b.io.wiring.get slot := by
  cases t with
  | restore saved =>
    cases hb : b.restore saved with
    | error problem => simp only [treat, hb]
    | ok b' =>
      obtain ⟨m, -, rfl⟩ := restore_eq_ok hb
      simp only [treat, hb, IoBank.wiring_restore]
  | operation op =>
    cases op with
    | configureSlot n spec w =>
      have hn : n = slot → w.unbound? ≠ none := by
        intro hsame hbound
        simp [Treatment.fits, hsame, hbound] at ht
      exact b.wiring_configureSlot hn spec
    | read _ _ | write _ _ _ | beginFrame | frameSync | machineReset | takeReset _ | notePc _ _
    | setInput _ _ | press _ _ | takeEvents | loadRom _ _ | unloadRom _ | snapshot _ =>
      exact congrArg (Pair.get · slot) (b.wiring_perform rfl)

/-- **A wiring stays** until another chip is put into its slot. -/
theorem wiring_treated (b : Board S) {slot : Fin 2} {run : List Treatment}
    (hrun : ∀ t ∈ run, t.fits slot = false) :
    (b.treated run).io.wiring.get slot = b.io.wiring.get slot := by
  induction run generalizing b with
  | nil => rfl
  | cons t run ih =>
    have hfirst := b.wiring_treat (hrun t List.mem_cons_self)
    have hrest := ih (b.treat t) fun t' ht' => hrun t' (List.mem_cons_of_mem _ ht')
    exact hrest.trans hfirst

omit [SoundChip S] in
theorem wiring_withChip (b : Board S) (slot : Fin 2) (spec : ChipSpec) (w : Wiring) :
    (b.withChip slot spec w).io.wiring.get slot = (w.reads, w.writes) := by
  unfold withChip IoBank.wiring
  rw [Pair.get_map, Pair.get_set_self]
  rfl

/-- **Putting a chip into a slot succeeds or changes nothing, and concerns that slot alone.** On a reachable
board it succeeds exactly if there is such a slot and all four read ports are bound. If not, it is reported
that there is no such slot, or else the first read port that is not bound, and the board is as it was. If
so, the slot has the new chip, at the level of the reset line, with its interrupt line low and no interrupt
counted; all else on the board is as it was, and there is a report if the chip came out of reset. From then
on the slot reads and writes by its wiring, whatever is done to the board and whichever states are
restored, until yet another chip is put there. -/
theorem Reachable.configureSlot_local {sound : S} {b : Board S} (h : Reachable sound b) (slot : Nat)
    (spec : ChipSpec) (w : Wiring) :
    ((∃ b', b.configureSlot slot spec w = .ok b') ↔
        slot < 2 ∧ ∀ i : Fin 4, (w.reads.get i).isBound = true) ∧
      (∀ problem, b.configureSlot slot spec w = .error problem ↔
        (2 ≤ slot ∧ problem = .noSlot slot) ∨
          slot < 2 ∧ ∃ i : Fin 4, problem = .ports (.unboundRead i) ∧ (w.reads.get i).isBound = false ∧
            ∀ j < i, (w.reads.get j).isBound = true) ∧
      (∀ problem b', configureSlotInPlace slot spec w b = .error problem b' →
        b' = b ∧ b.configureSlot slot spec w = .error problem) ∧
      (∀ b', configureSlotInPlace slot spec w b = .ok () b' → b.configureSlot slot spec w = .ok b') ∧
      ∀ b', b.configureSlot slot spec w = .ok b' → ∃ hslot : slot < 2,
        b' = b.withChip ⟨slot, hslot⟩ spec w ∧
          ∀ run : List Treatment, (∀ t ∈ run, t.fits slot = false) →
            (b'.treated run).WiredAs ⟨slot, hslot⟩ w := by
  have hfollows : b.io.Follows b.controls.chipsHeld := h.state_consistent.chips_follow
  have hsteps := configureSlotInPlace_eq slot spec w b
  refine ⟨exists_configureSlot_iff hfollows, fun _ => configureSlot_eq_error_iff hfollows, ?_, ?_, ?_⟩
  · intro problem b' hstop
    exact outcome_eq_error (hsteps.symm.trans hstop)
  · intro b' hend
    exact outcome_eq_ok (hsteps.symm.trans hend)
  · intro b' hfitted
    obtain ⟨hslot, rfl⟩ := configureSlot_eq_withChip hfollows hfitted
    refine ⟨hslot, rfl, ?_⟩
    intro run hrun
    have hkept : ((b.withChip ⟨slot, hslot⟩ spec w).treated run).io.wiring.get ⟨slot, hslot⟩ = _ :=
      wiring_treated _ hrun
    rw [wiring_withChip] at hkept
    exact wiredAs_of_wiring hkept

/-- Both chips run. The chip for the switches is exchanged for one that reads the joysticks at its second
port and drives the counter from its first. A wiring without the third read port is refused, and so is any
wiring for a slot that there is not. After a frame the second register of the slot reads the joysticks. -/
theorem Reachable.configureSlot_local_joysticks :
    let layout : IoLayout := ⟨⟨⟨.playerCoin, .part56⟩, ⟨.dipSwitch, .part58⟩⟩, true⟩
    let b := (stock layout (.atRest 0x12 0x34) 8 SoundRegisters.silent).after
      [.write .main 0x9000 0, .setInput .joysticks 0xA7]
    let spec : ChipSpec := ⟨.playerCoin, .part56⟩
    let reads (third : ReadPort InputGroup) : Vector (ReadPort InputGroup) 4 :=
      #v[.input .buttons .low, .input .joysticks .high, third, .input .dipA .low]
    let writes : Vector (WritePort OutputLatch) 2 := #v[.drive .counter, .unbound]
    Reachable .silent b ∧
      configureSlotInPlace 1 spec ⟨reads .unbound, writes⟩ b = .error (.ports (.unboundRead 2)) b ∧
      b.configureSlot 2 spec ⟨reads .unbound, writes⟩ = .error (.noSlot 2) ∧
      ∃ b', b.configureSlot 1 spec ⟨reads (.input .dipB .low), writes⟩ = .ok b' ∧
        b'.io.slots.fst.chip = b.io.slots.fst.chip ∧
        ((b'.treated [.operation .frameSync]).read .main 0x6811).1 = 0x0A := by
  intro layout b spec reads writes
  have hreachable : Reachable .silent b := (Reachable.powerOn (powerOn_eq _ _ _ _)).after _
  obtain ⟨-, hrefused, -, -, -⟩ := hreachable.configureSlot_local 1 spec ⟨reads .unbound, writes⟩
  obtain ⟨-, hmissing, -, -, -⟩ := hreachable.configureSlot_local 2 spec ⟨reads .unbound, writes⟩
  obtain ⟨htaken, -, -, -, heffect⟩ :=
    hreachable.configureSlot_local 1 spec ⟨reads (.input .dipB .low), writes⟩
  obtain ⟨b', hb'⟩ := htaken.mpr ⟨by decide, by decide⟩
  obtain ⟨hslot, hfitted, hwired⟩ := heffect b' hb'
  have hfitted : b' = b.withChip 1 spec ⟨reads (.input .dipB .low), writes⟩ := hfitted
  subst hfitted
  refine ⟨hreachable, ?_, ?_, _, hb', rfl, ?_⟩
  · rw [configureSlotInPlace_eq, (hrefused _).mpr (.inr ⟨by decide, 2, rfl, by decide, by decide⟩)]
    rfl
  · exact (hmissing _).mpr (.inl ⟨by decide, rfl⟩)
  · have hrun : ∀ t ∈ [Treatment.operation .frameSync], t.fits 1 = false := by simp [Treatment.fits]
    have hdecode : AddressMap.decode .main 0x6811 .read = .io 1 1 := by decide
    have hslotOne : WiredAs _ 1 _ := hwired _ hrun
    rw [hslotOne.read .main 0x6811 1 hdecode]
    decide +kernel

end Board

end Arcade
