import Arcade.Proofs.Board.Operation

/-!
# `Arcade.Proofs.Board.Reachable` — the boards that can come about, and what their sound generator hears

A board is reachable if it was switched on and has since had operations done to it and saved states put
into it. A saved state may come from any other reachable board, with other chips, another sound
generator and a history of its own.

To speak of what the sound generator was told, any generator can be fitted together with a recorder,
which passes everything on. The board cannot tell the two apart.

## Contents
- `Recorded`: a sound generator with a recorder; `Recorded.level`, what it was last told.
- `Shows`: a reading of a sound generator that follows what it is told.
- `Board.Reachable`.
-/

namespace Arcade

/-! ## The recorder -/

/-- A sound generator, and everything that it was told, the latest first. -/
structure Recorded (S : Type) where
  chip : S
  calls : List SoundCall

/-- Whether the output was last switched on, with it off at first. -/
def SoundCall.lastLevel : List SoundCall → Bool
  | [] => false
  | .enable on :: _ => on
  | .write _ _ :: calls => lastLevel calls

namespace Recorded

variable {S : Type}

/-- A sound generator that has not been told anything. -/
def fitted (chip : S) : Recorded S := ⟨chip, []⟩

/-- The level of the output that the generator was last told. -/
def level (r : Recorded S) : Bool := SoundCall.lastLevel r.calls

instance [SoundChip S] : SoundChip (Recorded S) where
  writeRegister r register data :=
    ⟨SoundChip.writeRegister r.chip register data, .write register data :: r.calls⟩
  setEnabled r on := ⟨SoundChip.setEnabled r.chip on, .enable on :: r.calls⟩

end Recorded

/-- A reading of a sound generator that shows whether its output was last switched on. -/
structure Shows {S : Type} [SoundChip S] (level : S → Bool) : Prop where
  write : ∀ s register data, level (SoundChip.writeRegister s register data) = level s
  enable : ∀ s on, level (SoundChip.setEnabled s on) = on

theorem shows_level {S : Type} [SoundChip S] : Shows (Recorded.level (S := S)) where
  write _ _ _ := rfl
  enable _ _ := rfl

/-! ## Reachable boards -/

namespace Board

/-- What a board that was switched on with a given sound generator can have become. -/
inductive Reachable : {S : Type} → [SoundChip S] → S → Board S → Prop
  | powerOn {S : Type} [SoundChip S] {layout : IoLayout} {inputs : Inputs} {frames : UInt32}
      {sound : S} {b : Board S} (h : Board.powerOn layout inputs frames sound = .ok b) :
      Reachable sound b
  | perform {S : Type} [SoundChip S] {sound : S} {b : Board S} (op : Operation)
      (h : Reachable sound b) : Reachable sound (b.perform op).2
  /-- The state put into the board is that of another reachable board. -/
  | restore {S T : Type} [SoundChip S] [SoundChip T] {sound : S} {other : T} {b b' : Board S}
      {c : Board T} (h : Reachable sound b) (saved : Reachable other c)
      (hb : b.restore c.state = .ok b') : Reachable sound b'

theorem Reachable.after {S : Type} [SoundChip S] {sound : S} {b : Board S}
    (h : Reachable sound b) (ops : List Operation) : Reachable sound (b.after ops) :=
  after_induction (fun _ op hb => hb.perform op) h ops

end Board

end Arcade
