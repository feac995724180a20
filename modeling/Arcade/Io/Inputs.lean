/-!
# `Arcade.Io.Inputs` — joysticks, buttons and switch banks

The host's inputs are four bytes. Joysticks and buttons are active low: a pressed button clears its
bit.

## Contents
- `InputGroup`, `Button` and its `Button.location`.
- `pullLow`: one bit of an active-low byte.
- `Inputs` with `get`, `set`, `press`, `isPressed`.
-/

namespace Arcade

/-- One of the four input bytes. -/
inductive InputGroup
  | joysticks
  | buttons
  | dipA
  | dipB
  deriving DecidableEq, Repr, Inhabited

namespace InputGroup

/-- The groups in order. -/
def all : List InputGroup := [.joysticks, .buttons, .dipA, .dipB]

/-- The tag of a group. -/
def tag : InputGroup → String
  | .joysticks => "Joysticks"
  | .buttons => "Buttons"
  | .dipA => "DswA"
  | .dipB => "DswB"

/-- The groups by their tags. -/
def byTag : List (String × InputGroup) := all.map fun g => (g.tag, g)

end InputGroup

/-- A button or a direction of a joystick. -/
inductive Button
  | p1Up
  | p1Right
  | p1Down
  | p1Left
  | p2Up
  | p2Right
  | p2Down
  | p2Left
  | p1Fire
  | p2Fire
  | start1
  | start2
  | coin1
  | coin2
  | service
  deriving DecidableEq, Repr, Inhabited

namespace Button

/-- The buttons by their tags. -/
def byTag : List (String × Button) :=
  [("P1Up", .p1Up), ("P1Right", .p1Right), ("P1Down", .p1Down), ("P1Left", .p1Left),
    ("P2Up", .p2Up), ("P2Right", .p2Right), ("P2Down", .p2Down), ("P2Left", .p2Left),
    ("P1Fire", .p1Fire), ("P2Fire", .p2Fire), ("Start1", .start1), ("Start2", .start2),
    ("Coin1", .coin1), ("Coin2", .coin2), ("Service", .service)]

/-- The group and the bit that a button pulls low. -/
def location : Button → InputGroup × UInt8
  | .p1Up => (.joysticks, 0)
  | .p1Right => (.joysticks, 1)
  | .p1Down => (.joysticks, 2)
  | .p1Left => (.joysticks, 3)
  | .p2Up => (.joysticks, 4)
  | .p2Right => (.joysticks, 5)
  | .p2Down => (.joysticks, 6)
  | .p2Left => (.joysticks, 7)
  | .p1Fire => (.buttons, 0)
  | .p2Fire => (.buttons, 1)
  | .start1 => (.buttons, 2)
  | .start2 => (.buttons, 3)
  | .coin1 => (.buttons, 4)
  | .coin2 => (.buttons, 5)
  | .service => (.buttons, 7)

end Button

/-- Clears a bit of a byte if it is pulled low, and sets it if not. -/
def pullLow (byte bit : UInt8) (low : Bool) : UInt8 :=
  if low then byte &&& ~~~ (1 <<< bit) else byte ||| (1 <<< bit)

/-- The four input bytes. -/
structure Inputs where
  joysticks : UInt8
  buttons : UInt8
  dipA : UInt8
  dipB : UInt8
  deriving DecidableEq, Repr

namespace Inputs

/-- Nothing is pressed, and the switch banks are set as given. -/
def atRest (dipA dipB : UInt8) : Inputs := ⟨0xFF, 0xFF, dipA, dipB⟩

instance : Inhabited Inputs := ⟨atRest 0xFF 0xFF⟩

/-- The byte of a group. -/
def get (i : Inputs) : InputGroup → UInt8
  | .joysticks => i.joysticks
  | .buttons => i.buttons
  | .dipA => i.dipA
  | .dipB => i.dipB

/-- Replaces the byte of a group. -/
def set (i : Inputs) (g : InputGroup) (v : UInt8) : Inputs :=
  match g with
  | .joysticks => { i with joysticks := v }
  | .buttons => { i with buttons := v }
  | .dipA => { i with dipA := v }
  | .dipB => { i with dipB := v }

/-- Presses or lets go of a button. -/
def press (i : Inputs) (b : Button) (pressed : Bool) : Inputs :=
  i.set b.location.1 (pullLow (i.get b.location.1) b.location.2 pressed)

/-- Whether a button is pressed. -/
def isPressed (i : Inputs) (b : Button) : Bool :=
  i.get b.location.1 &&& (1 <<< b.location.2) = 0

/-- The four bytes in order. -/
def toList (i : Inputs) : List UInt8 := [i.joysticks, i.buttons, i.dipA, i.dipB]

/-- Inputs from four bytes in order. -/
def ofList? : List UInt8 → Option Inputs
  | [j, b, a, c] => some ⟨j, b, a, c⟩
  | _ => none

theorem get_set (i : Inputs) (g h : InputGroup) (v : UInt8) :
    (i.set g v).get h = if g = h then v else i.get h := by
  cases g <;> cases h <;> rfl

theorem ofList?_toList (i : Inputs) : ofList? i.toList = some i := rfl

end Inputs

end Arcade
