import Arcade.Interpreter.Idle
import Arcade.Proofs.Machine.Contacts
import Mathlib.Data.List.Induction

/-!
# `Arcade.Proofs.Interpreter.Idle` — an interpreter that does nothing, on any bus

An interpreter is put on a bus that writes down what it serves, and is reset, shown levels of its interrupt line
and stepped in any order. Of the one that does nothing, everything that can be seen is told by what has been done
with it: it waits for its start address from the last reset to the next step, and it remembers the level of the
line that it was shown since the last reset.

## Contents
- `Bus.tapped`: a bus that writes down what it serves.
- `Interpreter.Bench`: an interpreter on a bus, `contact` and `after`.
- `Contact.sinceReset`, `awaitsVector`, `lastLevel`, `withPast`: the law in terms of the history alone.
- `Idle.Follows`, `Idle.Follows.contact`: an interpreter that does nothing follows its history.
- `Idle.idle_follows_history`.
-/

namespace Arcade

/-! ## An interpreter on a bus -/

/-- An access that a bus has served. -/
structure Served where
  access : Access
  address : UInt16
  value : UInt8

/-- What was accessed. -/
def Served.place (s : Served) : Access × UInt16 := (s.access, s.address)

/-- A bus that writes down what it serves. -/
def Bus.tapped {β : Type} (bus : Bus β) : Bus (β × List Served) where
  read b a :=
    let (v, rest) := bus.read b.1 a
    (v, rest, b.2 ++ [⟨.read, a, v⟩])
  write b a data := (bus.write b.1 a data, b.2 ++ [⟨.write, a, data⟩])
  note b n := (bus.note b.1 n, b.2)

namespace Interpreter

/-- An interpreter on a bus. -/
structure Bench (σ β : Type) where
  interpreter : σ
  bus : β
  /-- Everything that the bus has served. -/
  served : List Served
  /-- The cycles of all steps. -/
  cycles : List UInt32

namespace Bench

variable {σ β : Type} [Interpreter σ]

/-- An interpreter with which nothing has been done. -/
def fresh (c : σ) (b : β) : Bench σ β := ⟨c, b, [], []⟩

/-- Does something with the interpreter. -/
def contact (bus : Bus β) (n : Bench σ β) : Contact → Bench σ β
  | .reset => { n with interpreter := Interpreter.reset n.interpreter }
  | .line on => { n with interpreter := Interpreter.setIrqLine n.interpreter on }
  | .step =>
    let ((cycles, c), b, served) := (Interpreter.step n.interpreter).run bus.tapped (n.bus, n.served)
    ⟨c, b, served, n.cycles ++ [cycles]⟩

/-- After some contacts. -/
def after (bus : Bus β) (n : Bench σ β) (contacts : List Contact) : Bench σ β := contacts.foldl (contact bus) n

theorem after_snoc (bus : Bus β) (n : Bench σ β) (contacts : List Contact) (c : Contact) :
    n.after bus (contacts ++ [c]) = (n.after bus contacts).contact bus c := by
  unfold after
  rw [List.foldl_append]
  rfl

end Bench

end Interpreter

/-! ## Histories -/

namespace Contact

/-- What has been done since the last reset, the latest first. -/
def sinceReset (past : List Contact) : List Contact := past.reverse.takeWhile (· != .reset)

/-- Whether there was no step since the last reset, nor from the start if there was no reset. -/
def awaitsVector (past : List Contact) : Bool := !(sinceReset past).contains .step

/-- The level that is shown, if any is. -/
def level? : Contact → Option Bool
  | .line on => some on
  | _ => none

/-- The level that was shown last since the last reset, if any was. -/
def lastLevel (past : List Contact) : Option Bool := (sinceReset past).findSome? level?

/-- Each contact with all that were before it, some of them given. -/
def withPast (past : List Contact) : List Contact → List (List Contact × Contact)
  | [] => []
  | c :: contacts => (past, c) :: withPast (past ++ [c]) contacts

variable (past : List Contact) (c : Contact)

theorem sinceReset_snoc : sinceReset (past ++ [c]) = if c = .reset then [] else c :: sinceReset past := by
  unfold sinceReset
  rw [List.reverse_append, List.reverse_singleton, List.singleton_append, List.takeWhile_cons]
  cases c <;> rfl

theorem awaitsVector_snoc :
    awaitsVector (past ++ [c]) = match c with
      | .reset => true
      | .step => false
      | .line _ => awaitsVector past := by
  unfold awaitsVector
  rw [sinceReset_snoc]
  cases c with
  | reset => rfl
  | line on => simp
  | step => simp

theorem lastLevel_snoc :
    lastLevel (past ++ [c]) = match c with
      | .reset => none
      | .step => lastLevel past
      | .line on => some on := by
  unfold lastLevel
  rw [sinceReset_snoc]
  cases c <;> rfl

theorem withPast_snoc (contacts : List Contact) :
    withPast past (contacts ++ [c]) = withPast past contacts ++ [(past ++ contacts, c)] := by
  induction contacts generalizing past with
  | nil =>
    rw [List.append_nil]
    rfl
  | cons first contacts ih =>
    rw [List.cons_append, withPast, withPast, ih, List.append_assoc]
    rfl

end Contact

namespace Idle

open Contact Interpreter

/-- The accesses that fetch the start address. -/
def vectorReads : List (Access × UInt16) := [(.read, 0xFFFE), (.read, 0xFFFF)]

/-- Whether a contact is the first step since the last reset, or from the start. -/
def fetches (past : List Contact) (c : Contact) : Bool := c == .step && awaitsVector past

/-- Whether a contact raises the line, which is low after a reset. -/
def raises (past : List Contact) (c : Contact) : Bool := c == .line true && lastLevel past != some true

/-- The last two bytes that a bus has served as a word, the first of them its upper half. -/
def lastWord (served : List Served) : Nat :=
  match served.reverse with
  | low :: high :: _ => 256 * high.value.toNat + low.value.toNat
  | _ => 0

theorem toNat_word (high low : UInt8) :
    (high.toUInt16 <<< 8 ||| low.toUInt16).toNat = 256 * high.toNat + low.toNat := by
  have hhigh : high.toNat < 2 ^ 8 := high.toNat_lt
  have hlow : low.toNat < 2 ^ 8 := low.toNat_lt
  have hshift : (high.toUInt16 <<< 8).toNat = high.toNat <<< 8 := by
    rw [UInt16.toNat_shiftLeft, UInt8.toNat_toUInt16]
    show high.toNat <<< 8 % 2 ^ 16 = _
    rw [Nat.shiftLeft_eq]
    omega
  rw [UInt16.toNat_or, hshift, UInt8.toNat_toUInt16, ← Nat.shiftLeft_add_eq_or_of_lt hlow, Nat.shiftLeft_eq]
  omega

/-- An interpreter that does nothing is as its history says. -/
structure Follows {β : Type} (n : Bench Idle β) (past : List Contact) : Prop where
  needsVector_eq : n.interpreter.needsVector = awaitsVector past
  irq_eq : n.interpreter.irq = (lastLevel past == some true)
  served_eq : n.served.map Served.place =
    (withPast [] past).flatMap fun c => if fetches c.1 c.2 then vectorReads else []
  cycles_eq : n.cycles = List.replicate (past.count .step) stepCycles
  pc_eq : n.interpreter.pc.toNat = lastWord n.served
  irqEdges_eq : n.interpreter.irqEdges = .ofNat ((withPast [] past).countP fun c => raises c.1 c.2)

variable {β : Type} {n : Bench Idle β} {past : List Contact}

/-- A step that has its start address does not touch the bus. -/
theorem contact_step_of_started (bus : Bus β) (h : n.interpreter.needsVector = false) :
    n.contact bus .step = { n with cycles := n.cycles ++ [stepCycles] } := by
  have hstep : Interpreter.step n.interpreter = .done (stepCycles, n.interpreter) := by
    show Idle.step n.interpreter = _
    unfold step
    rw [h]
    rfl
  unfold Bench.contact
  rw [hstep]
  rfl

/-- A step that needs its start address fetches it and does nothing else. -/
theorem contact_step_of_needsVector (bus : Bus β) (h : n.interpreter.needsVector = true) :
    ∃ (high low : UInt8) (b : β), n.contact bus .step =
      { interpreter :=
          { n.interpreter with pc := high.toUInt16 <<< 8 ||| low.toUInt16, needsVector := false }
        bus := b
        served := n.served ++ [⟨.read, 0xFFFE, high⟩, ⟨.read, 0xFFFF, low⟩]
        cycles := n.cycles ++ [stepCycles] } := by
  obtain ⟨high, b₁, hhigh⟩ : ∃ high b₁, bus.read n.bus 0xFFFE = (high, b₁) := ⟨_, _, rfl⟩
  obtain ⟨low, b₂, hlow⟩ : ∃ low b₂, bus.read b₁ 0xFFFF = (low, b₂) := ⟨_, _, rfl⟩
  obtain ⟨b₃, hnote⟩ : ∃ b₃, bus.note b₂ (.vectorFetched n.interpreter.name
      (high.toUInt16 <<< 8 ||| low.toUInt16)) = b₃ := ⟨_, rfl⟩
  have hstep : (Interpreter.step n.interpreter).run bus.tapped (n.bus, n.served) =
      ((stepCycles, { n.interpreter with pc := high.toUInt16 <<< 8 ||| low.toUInt16, needsVector := false }),
        b₃, n.served ++ [⟨.read, 0xFFFE, high⟩, ⟨.read, 0xFFFF, low⟩]) := by
    show (Idle.step n.interpreter).run bus.tapped (n.bus, n.served) = _
    unfold step
    rw [h]
    simp [BusProgram.run, Bus.tapped, hhigh, hlow, hnote]
  refine ⟨high, low, b₃, ?_⟩
  unfold Bench.contact
  rw [hstep]

theorem lastWord_append (served : List Served) (high low : Served) :
    lastWord (served ++ [high, low]) = 256 * high.value.toNat + low.value.toNat := by
  unfold lastWord
  rw [List.reverse_append]
  rfl

theorem Follows.fetches_step (h : Follows n past) : fetches past .step = n.interpreter.needsVector := by
  rw [h.needsVector_eq]
  rfl

theorem Follows.raises_line (h : Follows n past) (on : Bool) :
    raises past (.line on) = (on && !n.interpreter.irq) := by
  rw [h.irq_eq]
  cases on with
  | false => rfl
  | true => rfl

/-- **An interpreter that does nothing follows its history** through one contact more. -/
theorem Follows.contact (h : Follows n past) (bus : Bus β) (c : Contact) :
    Follows (n.contact bus c) (past ++ [c]) := by
  have hawaits := awaitsVector_snoc past c
  have hlevel := lastLevel_snoc past c
  have hserved : ((withPast [] (past ++ [c])).flatMap fun c => if fetches c.1 c.2 then vectorReads else []) =
      n.served.map Served.place ++ if fetches past c then vectorReads else [] := by
    rw [withPast_snoc, List.flatMap_append, h.served_eq, List.flatMap_singleton, List.nil_append]
  have hcycles : List.replicate ((past ++ [c]).count .step) stepCycles =
      n.cycles ++ if c = .step then [stepCycles] else [] := by
    rw [List.count_append, ← List.replicate_append_replicate, h.cycles_eq]
    cases c <;> rfl
  have hedges : .ofNat ((withPast [] (past ++ [c])).countP fun c => raises c.1 c.2) =
      if raises past c then n.interpreter.irqEdges + 1 else n.interpreter.irqEdges := by
    rw [withPast_snoc, List.countP_append, h.irqEdges_eq, List.countP_singleton, List.nil_append, UInt64.ofNat_add]
    cases raises past c with
    | false => exact UInt64.add_zero _
    | true => rfl
  cases c with
  | reset =>
    refine ⟨hawaits.symm, ?_, ?_, ?_, h.pc_eq, ?_⟩
    · rw [hlevel]
      rfl
    · rw [hserved]
      exact (List.append_nil _).symm
    · rw [hcycles]
      exact (List.append_nil _).symm
    · rw [hedges]
      rfl
  | line on =>
    refine ⟨h.needsVector_eq.trans hawaits.symm, ?_, ?_, ?_, h.pc_eq, ?_⟩
    · rw [hlevel]
      cases on <;> rfl
    · rw [hserved]
      exact (List.append_nil _).symm
    · rw [hcycles]
      exact (List.append_nil _).symm
    · rw [hedges, h.raises_line]
      rfl
  | step =>
    cases hneeds : n.interpreter.needsVector with
    | false =>
      have hfetches : fetches past .step = false := h.fetches_step.trans hneeds
      rw [contact_step_of_started bus hneeds]
      refine ⟨hneeds.trans hawaits.symm, h.irq_eq.trans (congrArg (· == some true) hlevel.symm), ?_, ?_,
        h.pc_eq, ?_⟩
      · rw [hserved, hfetches]
        exact (List.append_nil _).symm
      · rw [hcycles]
        rfl
      · rw [hedges]
        rfl
    | true =>
      have hfetches : fetches past .step = true := h.fetches_step.trans hneeds
      obtain ⟨high, low, b, hstep⟩ := contact_step_of_needsVector bus hneeds
      rw [hstep]
      refine ⟨hawaits.symm, h.irq_eq.trans (congrArg (· == some true) hlevel.symm), ?_, ?_, ?_, ?_⟩
      · rw [hserved, hfetches, List.map_append]
        rfl
      · rw [hcycles]
        rfl
      · rw [lastWord_append]
        exact toNat_word high low
      · rw [hedges]
        rfl

/-- **What an interpreter that does nothing does on a bus is told by what has been done with it.** -/
theorem follows_after (name : String) (bus : Bus β) (b : β) (past : List Contact) :
    Follows ((Bench.fresh (named name) b).after bus past) past := by
  induction past using List.reverseRecOn with
  | nil => exact ⟨rfl, rfl, rfl, rfl, rfl, rfl⟩
  | append_singleton past c ih =>
    rw [Bench.after_snoc]
    exact ih.contact bus c

/-- **An interpreter that does nothing, on any bus.** Take one of any name, just made, on a bus in any state, and
anything that is done with it. The bus has served one read of `FFFE` and one of `FFFF` after it in every first step
since a reset or from the start, and nothing else. Every step took two cycles. The program counter is the word that
was fetched last, its upper half first, or zero if none was, whatever resets came since. And the rises of the line
are the contacts that showed it high when it was not shown high last, resets apart, after which none was shown. -/
theorem idle_follows_history (name : String) (bus : Bus β) (b : β) (past : List Contact) :
    let now := (Bench.fresh (named name) b).after bus past
    now.served.map Served.place =
        ((withPast [] past).flatMap fun c => if fetches c.1 c.2 then [(.read, 0xFFFE), (.read, 0xFFFF)] else []) ∧
      now.cycles = List.replicate (past.count .step) 2 ∧
      now.interpreter.pc.toNat = lastWord now.served ∧
      now.interpreter.irqEdges = .ofNat ((withPast [] past).countP fun c => raises c.1 c.2) := by
  intro now
  have hnow : Follows now past := follows_after name bus b past
  exact ⟨hnow.served_eq, hnow.cycles_eq, hnow.pc_eq, hnow.irqEdges_eq⟩

end Idle

end Arcade
