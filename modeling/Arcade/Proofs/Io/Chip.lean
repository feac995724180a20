import Mathlib.Data.List.Induction
import Arcade.Io.Chip

/-!
# `Arcade.Proofs.Io.Chip` — a chip as its pins have been driven

Whatever its ports are bound to, a chip is told by what has been done at its pins since it was switched on. The
reset pin decides whether anything else has an effect: it is asserted at first, and has the level it was given
last. What is written and pulsed while it is released takes effect, in order; what a port shows is half of a byte
as it is now, and nothing that was there before. What is saved of a chip is all that it remembers.

## Contents
- `IoChip.Signal`, `IoChip.Answer`, `IoChip.Bench`: chips together with the input bytes at their pins.
- `released`, `lastBytes`, `outOfReset`, `Raised`: the law in terms of the history alone.
- `Bench.Follows`, `Bench.Follows.perform`, `Bench.follows_after`: a chip follows its history.
- `Bench.perform_relabel`, `Bench.answers_relabel`: chips that differ in their labels.
- `chip_follows_history`.
-/

namespace Arcade

/-- What half of a byte is as a number. -/
theorem Nibble.toNat_extract (n : Nibble) (byte : UInt8) :
    (n.extract byte).toNat = match n with
      | .low => byte.toNat % 16
      | .high => byte.toNat / 16 := by
  cases n with
  | low => exact Nat.and_two_pow_sub_one_eq_mod byte.toNat 4
  | high => exact (UInt8.toNat_shiftRight byte 4).trans (Nat.shiftRight_eq_div_pow byte.toNat 4)

/-- What a read port shows of the input bytes: half of a byte if it is bound, and otherwise all lines high. -/
def ReadPort.shown {G : Type} (bytes : G → UInt8) : Option (ReadPort G) → Nat
  | some (.input group .low) => (bytes group).toNat % 16
  | some (.input group .high) => (bytes group).toNat / 16
  | some .unbound => 15
  | none => 15

namespace IoChip

/-- Something that is done at the pins of a chip. -/
inductive Signal (G : Type)
  /-- The input bytes change. -/
  | input (bytes : G → UInt8)
  | read (port : Nat)
  | write (port : Nat) (data : UInt8)
  /-- The reset pin is given a level. -/
  | reset (asserted : Bool)
  | pulse
  /-- The interrupt line is lowered. -/
  | clear

/-- What comes of it. -/
inductive Answer (L : Type)
  | silent
  | value (v : UInt8)
  /-- A latch that is driven with a byte, if any is. -/
  | drives (out : Option (L × UInt8))
  /-- Whether a pulse is taken. -/
  | taken (accepted : Bool)

/-- What is driven. -/
def Answer.out? {L : Type} : Answer L → Option (L × UInt8)
  | .drives out => out
  | _ => none

/-- A chip with the input bytes at its pins. -/
structure Bench (G L : Type) where
  chip : IoChip G L
  bytes : G → UInt8

variable {G L : Type}

namespace Bench

/-- What a signal does. -/
def perform (b : Bench G L) : Signal G → Answer L × Bench G L
  | .input bytes => (.silent, { b with bytes := bytes })
  | .read port => (.value (b.chip.read port b.bytes).1, b)
  | .write port data => (.drives ((b.chip.sink port data).1.map (·, data)), b)
  | .reset asserted => (.silent, { b with chip := b.chip.setReset asserted })
  | .pulse => (.taken b.chip.pulse.1, { b with chip := b.chip.pulse.2 })
  | .clear => (.silent, { b with chip := b.chip.clearInterrupt })

/-- After some signals. -/
def after (b : Bench G L) (signals : List (Signal G)) : Bench G L :=
  signals.foldl (fun b s => (b.perform s).2) b

/-- What comes of some signals, in order. -/
def answers (b : Bench G L) : List (Signal G) → List (Answer L)
  | [] => []
  | s :: signals => (b.perform s).1 :: (b.perform s).2.answers signals

theorem after_snoc (b : Bench G L) (signals : List (Signal G)) (s : Signal G) :
    b.after (signals ++ [s]) = ((b.after signals).perform s).2 := by
  unfold after
  rw [List.foldl_append]
  rfl

theorem answers_snoc (b : Bench G L) (signals : List (Signal G)) (s : Signal G) :
    b.answers (signals ++ [s]) = b.answers signals ++ [((b.after signals).perform s).1] := by
  induction signals generalizing b with
  | nil => rfl
  | cons first signals ih => exact congrArg (_ :: ·) (ih (b.perform first).2)

end Bench

/-! ## Histories -/

namespace Signal

/-- The level that a signal gives to the reset pin, if it gives it any. -/
def resetLevel? : Signal G → Option Bool
  | .reset asserted => some asserted
  | _ => none

/-- The input bytes that a signal brings, if it brings any. -/
def bytes? : Signal G → Option (G → UInt8)
  | .input bytes => some bytes
  | _ => none

/-- What a signal drives on the latches that the write ports are bound to, if the chip is not in reset. -/
def drive? (writes : Vector (WritePort L) 2) : Signal G → Option (L × UInt8)
  | .write port data =>
    match writes[port]? with
    | some (.drive latch) => some (latch, data)
    | _ => none
  | _ => none

/-- Whether a signal is a pulse. -/
def isPulse : Signal G → Bool
  | .pulse => true
  | _ => false

/-- Whether a signal lowers the interrupt line. -/
def lowers : Signal G → Bool
  | .clear => true
  | .reset asserted => asserted
  | _ => false

end Signal

/-- Whether the reset pin was released last. It is asserted at first. -/
def released (past : List (Signal G)) : Bool := past.reverse.findSome? Signal.resetLevel? == some false

/-- The input bytes as they were given last, or those that were there at first. -/
def lastBytes (first : G → UInt8) (past : List (Signal G)) : G → UInt8 :=
  (past.reverse.findSome? Signal.bytes?).getD first

/-- The signals that come while the reset pin is released, after a history. -/
def outOfReset (past : List (Signal G)) : List (Signal G) → List (Signal G)
  | [] => []
  | s :: signals =>
    if released past then s :: outOfReset (past ++ [s]) signals else outOfReset (past ++ [s]) signals

/-- There was a pulse while the reset pin was released, and nothing has lowered the interrupt line since. -/
def Raised (past : List (Signal G)) : Prop :=
  ∃ before later, past = before ++ .pulse :: later ∧ released before = true ∧ ∀ s ∈ later, s.lowers = false

theorem released_snoc (past : List (Signal G)) (s : Signal G) :
    released (past ++ [s]) = (s.resetLevel?.map Bool.not).getD (released past) := by
  unfold released
  rw [List.reverse_append, List.reverse_singleton, List.singleton_append, List.findSome?_cons]
  cases s with
  | reset asserted => cases asserted <;> rfl
  | input | read | write | pulse | clear => rfl

theorem lastBytes_snoc (first : G → UInt8) (past : List (Signal G)) (s : Signal G) :
    lastBytes first (past ++ [s]) = s.bytes?.getD (lastBytes first past) := by
  unfold lastBytes
  rw [List.reverse_append, List.reverse_singleton, List.singleton_append, List.findSome?_cons]
  cases s.bytes? <;> rfl

theorem outOfReset_snoc (past signals : List (Signal G)) (s : Signal G) :
    outOfReset past (signals ++ [s]) =
      outOfReset past signals ++ if released (past ++ signals) then [s] else [] := by
  induction signals generalizing past with
  | nil =>
    rw [List.append_nil]
    exact rfl
  | cons first signals ih =>
    have hlater := ih (past ++ [first])
    rw [List.append_assoc, List.singleton_append] at hlater
    rw [List.cons_append, outOfReset, outOfReset, hlater]
    cases released past <;> rfl

/-- The line is raised by a pulse out of reset, and it stays until something lowers it. -/
theorem raised_snoc (past : List (Signal G)) (s : Signal G) :
    Raised (past ++ [s]) ↔ (s = .pulse ∧ released past = true) ∨ (Raised past ∧ s.lowers = false) := by
  constructor
  · rintro ⟨before, later, hsplit, hreleased, hkeeps⟩
    cases later using List.reverseRecOn with
    | nil =>
      obtain ⟨rfl, hlast⟩ := List.append_inj' hsplit rfl
      exact .inl ⟨List.singleton_inj.mp hlast, hreleased⟩
    | append_singleton later last =>
      rw [← List.cons_append, ← List.append_assoc] at hsplit
      obtain ⟨hpast, hlast⟩ := List.append_inj' hsplit rfl
      have hkept := List.forall_mem_append.mp hkeeps
      refine .inr ⟨⟨before, later, hpast, hreleased, hkept.1⟩, ?_⟩
      rw [List.singleton_inj.mp hlast]
      exact hkept.2 last List.mem_cons_self
  · rintro (⟨rfl, hreleased⟩ | ⟨⟨before, later, rfl, hreleased, hkeeps⟩, hkeep⟩)
    · exact ⟨past, [], rfl, hreleased, nofun⟩
    · refine ⟨before, later ++ [s], by simp, hreleased, List.forall_mem_append.mpr ⟨hkeeps, ?_⟩⟩
      intro other hother
      rw [List.mem_singleton.mp hother]
      exact hkeep

theorem not_raised_nil : ¬ Raised ([] : List (Signal G)) := by
  rintro ⟨before, later, hsplit, -⟩
  exact List.append_ne_nil_of_right_ne_nil _ (List.cons_ne_nil _ _) hsplit.symm

/-! ## Chips and their histories -/

/-- A chip with the given bindings is as its history says. -/
structure Bench.Follows (b : Bench G L) (reads : Vector (ReadPort G) 4) (writes : Vector (WritePort L) 2)
    (first : G → UInt8) (past : List (Signal G)) : Prop where
  reads_eq : b.chip.reads = reads
  writes_eq : b.chip.writes = writes
  bytes_eq : b.bytes = lastBytes first past
  reset_eq : b.chip.state.reset = !released past
  irqLine_iff : b.chip.state.irqLine = true ↔ Raised past
  pulses_eq : b.chip.state.pulses = .ofNat ((outOfReset [] past).countP Signal.isPulse)

variable {b : Bench G L} {reads : Vector (ReadPort G) 4} {writes : Vector (WritePort L) 2} {first : G → UInt8}
  {past : List (Signal G)}

/-- A signal that does not touch the state of a chip has no part in its history. -/
theorem Bench.Follows.of_state_eq (h : b.Follows reads writes first past) {s : Signal G} {bytes : G → UInt8}
    (hreset : s.resetLevel? = none) (hpulse : s.isPulse = false) (hlowers : s.lowers = false)
    (hbytes : bytes = s.bytes?.getD b.bytes) :
    Bench.Follows { b with bytes := bytes } reads writes first (past ++ [s]) where
  reads_eq := h.reads_eq
  writes_eq := h.writes_eq
  bytes_eq := by rw [lastBytes_snoc, ← h.bytes_eq, hbytes]
  reset_eq := by rw [released_snoc, hreset, h.reset_eq]; rfl
  irqLine_iff := by
    have hother : s ≠ .pulse := by
      rintro rfl
      cases hpulse
    rw [raised_snoc, h.irqLine_iff]
    simp [hother, hlowers]
  pulses_eq := by
    rw [outOfReset_snoc, List.nil_append, List.countP_append, h.pulses_eq]
    cases released past <;> simp [hpulse]

/-- **A chip follows its history through one signal more.** -/
theorem Bench.Follows.perform (h : b.Follows reads writes first past) (s : Signal G) :
    (b.perform s).2.Follows reads writes first (past ++ [s]) := by
  have hbytes := lastBytes_snoc first past s
  have hreleased := released_snoc past s
  have hraised := raised_snoc past s
  have hpulses : (outOfReset [] (past ++ [s])).countP Signal.isPulse =
      (outOfReset [] past).countP Signal.isPulse + if released past && s.isPulse then 1 else 0 := by
    rw [outOfReset_snoc, List.nil_append, List.countP_append]
    cases released past <;> simp [List.countP_singleton]
  cases s with
  | input bytes => exact h.of_state_eq rfl rfl rfl rfl
  | read | write => exact h.of_state_eq rfl rfl rfl rfl
  | reset asserted =>
    refine ⟨h.reads_eq, h.writes_eq, h.bytes_eq.trans hbytes.symm, ?_, ?_, ?_⟩
    · rw [hreleased]
      exact (Bool.not_not asserted).symm
    · show (!asserted && b.chip.state.irqLine) = true ↔ _
      rw [Bool.and_eq_true, h.irqLine_iff, hraised, Bool.not_eq_true']
      simp [Signal.lowers, and_comm]
    · rw [hpulses]
      exact h.pulses_eq.trans (by simp [Signal.isPulse])
  | pulse =>
    have hreset := h.reset_eq
    show Bench.Follows { b with chip := b.chip.pulse.2 } _ _ _ _
    cases hnow : released past with
    | false =>
      rw [hnow] at hreset hpulses hraised hreleased
      have hpulse : b.chip.pulse = (false, b.chip) := if_pos hreset
      rw [hpulse]
      refine ⟨h.reads_eq, h.writes_eq, h.bytes_eq.trans hbytes.symm, ?_, ?_, ?_⟩
      · exact hreset.trans (congrArg Bool.not hreleased.symm)
      · rw [h.irqLine_iff, hraised]
        simp [Signal.lowers]
      · rw [hpulses]
        exact h.pulses_eq
    | true =>
      rw [hnow] at hreset hpulses hraised hreleased
      have hpulse : b.chip.pulse = (true, { b.chip with state :=
          { b.chip.state with irqLine := true, pulses := b.chip.state.pulses + 1 } }) :=
        if_neg (Bool.eq_false_iff.mp hreset)
      rw [hpulse]
      refine ⟨h.reads_eq, h.writes_eq, h.bytes_eq.trans hbytes.symm, ?_, ?_, ?_⟩
      · exact hreset.trans (congrArg Bool.not hreleased.symm)
      · rw [hraised]
        simp
      · show b.chip.state.pulses + 1 = _
        rw [hpulses, h.pulses_eq, UInt64.ofNat_add]
        rfl
  | clear =>
    refine ⟨h.reads_eq, h.writes_eq, h.bytes_eq.trans hbytes.symm, ?_, ?_, ?_⟩
    · rw [hreleased]
      exact h.reset_eq
    · rw [hraised]
      simp [Bench.perform, clearInterrupt, Signal.lowers]
    · rw [hpulses]
      exact h.pulses_eq.trans (by simp [Signal.isPulse])

/-- **A chip follows its history** from when it is switched on. -/
theorem Bench.follows_after (label : String) (reads : Vector (ReadPort G) 4) (writes : Vector (WritePort L) 2)
    (first : G → UInt8) (past : List (Signal G)) :
    (Bench.after ⟨powerOn label reads writes, first⟩ past).Follows reads writes first past := by
  induction past using List.reverseRecOn with
  | nil =>
    refine ⟨rfl, rfl, rfl, rfl, ?_, rfl⟩
    exact ⟨nofun, fun h => absurd h not_raised_nil⟩
  | append_singleton past s ih =>
    rw [Bench.after_snoc]
    exact ih.perform s

/-- What a chip shows at a port. -/
theorem Bench.Follows.toNat_read (h : b.Follows reads writes first past) (port : Nat) :
    (b.chip.read port b.bytes).1.toNat =
      if released past then ReadPort.shown (lastBytes first past) reads[port]? else 15 := by
  unfold IoChip.read
  rw [h.reset_eq, h.reads_eq, h.bytes_eq]
  cases released past with
  | false => rfl
  | true =>
    simp only [Bool.not_true, Bool.false_eq_true, if_false, if_true]
    cases reads[port]? with
    | none => rfl
    | some bound =>
      cases bound with
      | unbound => rfl
      | input group nibble => cases nibble <;> exact Nibble.toNat_extract _ _

theorem ReadPort.shown_lt (bytes : G → UInt8) (port : Option (ReadPort G)) : ReadPort.shown bytes port < 16 := by
  unfold ReadPort.shown
  split
  · exact Nat.mod_lt _ (by decide)
  · next group =>
    have hbyte := (bytes group).toNat_lt
    omega
  · decide
  · decide

/-- What a chip drives at one signal. -/
theorem Bench.Follows.out?_perform (h : b.Follows reads writes first past) (s : Signal G) :
    (b.perform s).1.out? = if released past then s.drive? writes else none := by
  cases s with
  | write port data =>
    show (b.chip.sink port data).1.map (·, data) = _
    unfold IoChip.sink Signal.drive?
    rw [h.reset_eq, h.writes_eq]
    cases released past with
    | false => rfl
    | true =>
      simp only [Bool.not_true, Bool.false_eq_true, if_false, if_true]
      cases writes[port]? with
      | none => rfl
      | some bound => cases bound <;> rfl
  | input | read | reset | pulse | clear => cases released past <;> rfl

/-- **What a chip has driven is what was written to bound ports out of reset.** -/
theorem Bench.filterMap_answers (label : String) (reads : Vector (ReadPort G) 4) (writes : Vector (WritePort L) 2)
    (first : G → UInt8) (past : List (Signal G)) :
    (Bench.answers ⟨powerOn label reads writes, first⟩ past).filterMap Answer.out? =
      (outOfReset [] past).filterMap (Signal.drive? writes) := by
  induction past using List.reverseRecOn with
  | nil => rfl
  | append_singleton past s ih =>
    have hbefore := Bench.follows_after label reads writes first past
    rw [Bench.answers_snoc, outOfReset_snoc, List.filterMap_append, List.filterMap_append, ih,
      List.nil_append, List.filterMap_cons, List.filterMap_nil, hbefore.out?_perform]
    cases released past with
    | false => rfl
    | true => rw [if_pos rfl, if_pos rfl, List.filterMap_cons, List.filterMap_nil]

/-- A pulse is taken out of reset. -/
theorem Bench.Follows.taken (h : b.Follows reads writes first past) : b.chip.pulse.1 = released past := by
  have hreset := h.reset_eq
  unfold IoChip.pulse
  cases hreleased : released past <;> simp [hreset, hreleased]

/-! ## Labels -/

namespace Bench

/-- The same chip under another label. -/
def relabel (b : Bench G L) (label : String) : Bench G L := { b with chip := { b.chip with label := label } }

/-- The label has no part in what a chip does. -/
theorem perform_relabel (b : Bench G L) (label : String) (s : Signal G) :
    (b.relabel label).perform s = ((b.perform s).1, (b.perform s).2.relabel label) := by
  obtain ⟨⟨_, reads, writes, reset, irqLine, pulses⟩, bytes⟩ := b
  cases s with
  | input | reset | clear => rfl
  | pulse => cases reset <;> rfl
  | read port =>
    unfold perform relabel IoChip.read
    dsimp only
    cases reset with
    | true => rfl
    | false =>
      cases reads[port]? with
      | none => rfl
      | some bound => cases bound <;> rfl
  | write port data =>
    unfold perform relabel IoChip.sink
    dsimp only
    cases reset with
    | true => rfl
    | false =>
      cases writes[port]? with
      | none => rfl
      | some bound => cases bound <;> rfl

theorem after_relabel (b : Bench G L) (label : String) (signals : List (Signal G)) :
    (b.relabel label).after signals = (b.after signals).relabel label := by
  induction signals using List.reverseRecOn with
  | nil => rfl
  | append_singleton signals s ih => rw [after_snoc, after_snoc, ih, perform_relabel]

theorem answers_relabel (b : Bench G L) (label : String) (signals : List (Signal G)) :
    (b.relabel label).answers signals = b.answers signals := by
  induction signals generalizing b with
  | nil => rfl
  | cons s signals ih =>
    rw [answers, answers, perform_relabel]
    exact congrArg (_ :: ·) (ih (b.perform s).2)

/-- A chip that is given the state of another, with which it shares its bindings, differs from it in its label. -/
theorem restore_eq_relabel {b : Bench G L} {other : IoChip G L} (hreads : other.reads = b.chip.reads)
    (hwrites : other.writes = b.chip.writes) :
    (⟨other.restore b.chip.state, b.bytes⟩ : Bench G L) = b.relabel other.label := by
  show (⟨⟨other.label, other.reads, other.writes, b.chip.state⟩, b.bytes⟩ : Bench G L) =
    ⟨⟨other.label, b.chip.reads, b.chip.writes, b.chip.state⟩, b.bytes⟩
  rw [hreads, hwrites]

end Bench

/-! ## The law -/

/-- **What a chip does is told by what has been done at its pins.** Take a chip with any bindings, just switched
on, with any input bytes, and any signals. What it has driven is what was written to bound ports out of reset, in
order. Any port, whether there is one of that number or not, shows half of the byte it is bound to as that is now,
if there is such a port, it is bound and the chip is out of reset, and otherwise all lines high; a read leaves
everything as it is. The chip has taken the pulses that came out of reset, and takes the next one if it is out of
reset now; its interrupt line is raised if it has taken one since it was switched on, last put in reset or
cleared. And any chip with the same bindings that is given its state behaves as it does from then on. -/
theorem chip_follows_history (label : String) (reads : Vector (ReadPort G) 4) (writes : Vector (WritePort L) 2)
    (first : G → UInt8) (past : List (Signal G)) :
    let fresh : Bench G L := ⟨powerOn label reads writes, first⟩
    let now := fresh.after past
    (fresh.answers past).filterMap Answer.out? = (outOfReset [] past).filterMap (Signal.drive? writes) ∧
      (∀ port, ∃ v, now.perform (.read port) = (.value v, now) ∧ v < 16 ∧
        v.toNat = if released past then ReadPort.shown (lastBytes first past) reads[port]? else 15) ∧
      now.chip.state.pulses = .ofNat ((outOfReset [] past).countP Signal.isPulse) ∧
      (now.perform .pulse).1 = .taken (released past) ∧
      (now.chip.state.irqLine = true ↔ Raised past) ∧
      ∀ other : IoChip G L, other.reads = reads → other.writes = writes →
        let restored : Bench G L := ⟨other.restore now.chip.state, now.bytes⟩
        ∀ later, restored.answers later = now.answers later ∧
          (restored.after later).chip.state = (now.after later).chip.state := by
  intro fresh now
  have hnow : now.Follows reads writes first past := Bench.follows_after label reads writes first past
  have hdriven := Bench.filterMap_answers label reads writes first past
  refine ⟨hdriven, fun port => ?_, hnow.pulses_eq, ?_, hnow.irqLine_iff, fun other hreads hwrites => ?_⟩
  · have hread := hnow.toNat_read port
    refine ⟨_, rfl, ?_, hread⟩
    rw [UInt8.lt_iff_toNat_lt, hread]
    split
    · exact ReadPort.shown_lt _ _
    · decide
  · exact congrArg Answer.taken hnow.taken
  · intro restored later
    have hsame : restored = now.relabel other.label :=
      Bench.restore_eq_relabel (hreads.trans hnow.reads_eq.symm) (hwrites.trans hnow.writes_eq.symm)
    rw [hsame, Bench.answers_relabel, Bench.after_relabel]
    exact ⟨rfl, rfl⟩

/-- A chip of which one write comes in reset, one has no port and one no latch: one is driven. Of three pulses the
second is missed, and the line that the first raised is lowered before the third. Another chip takes over. -/
theorem chip_follows_history_taken_over :
    let reads : Vector (ReadPort Bool) 4 := #v[.input true .low, .input false .high, .unbound, .unbound]
    let writes : Vector (WritePort Nat) 2 := #v[.drive 7, .unbound]
    let past : List (Signal Bool) :=
      [.write 0 3, .reset false, .write 0 5, .write 1 6, .write 2 7, .pulse, .reset true, .pulse, .reset false,
        .input fun group => if group then 0x12 else 0x34, .pulse]
    let fresh : Bench Bool Nat := ⟨powerOn "first" reads writes, fun _ => 0xFF⟩
    let now := fresh.after past
    let other := powerOn "second" reads writes
    let restored : Bench Bool Nat := ⟨other.restore now.chip.state, now.bytes⟩
    (fresh.answers past).filterMap Answer.out? = [(7, 5)] ∧ now.chip.state.pulses = 2 ∧
      now.chip.state.irqLine = true ∧ other.reads = reads ∧ other.writes = writes ∧
      restored.answers [.read 1, .clear, .pulse] = now.answers [.read 1, .clear, .pulse] := by
  intro reads writes past fresh now other restored
  obtain ⟨hdriven, -, hpulses, -, hline, hlater⟩ := chip_follows_history "first" reads writes (fun _ => 0xFF) past
  have hraised : Raised past := ⟨past.take 10, [], rfl, rfl, nofun⟩
  exact ⟨hdriven, hpulses, hline.mpr hraised, rfl, rfl, (hlater other rfl rfl _).1⟩

end IoChip

end Arcade
