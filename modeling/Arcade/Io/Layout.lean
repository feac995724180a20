import Arcade.Io.Chip
import Arcade.Io.Inputs
import Arcade.Io.Outputs

/-!
# `Arcade.Io.Layout` — which chip sits in which slot, and how it is wired

A board has two slots, and a chip's job is separate from its part and from its slot: one chip serves
players and coins, the other reads the switch banks, in either order and as either part.

## Contents
- `ChipKind`, `ChipPart`, `ChipSpec`, `IoLayout`.
- `Wiring`: the bindings of a chip's ports, and `ChipKind.wiring`.
-/

namespace Arcade

/-- The job of a chip. -/
inductive ChipKind
  | playerCoin
  | dipSwitch
  deriving DecidableEq, Repr

namespace ChipKind

/-- The tag of a job in configurations. -/
def tag : ChipKind → String
  | .playerCoin => "player_coin"
  | .dipSwitch => "dip_switch"

/-- The jobs by their tags. -/
def byTag : List (String × ChipKind) := [.playerCoin, .dipSwitch].map fun k => (k.tag, k)

/-- The name of a job in reports. -/
def name : ChipKind → String
  | .playerCoin => "player/coin"
  | .dipSwitch => "dip-switch"

end ChipKind

/-- The part number of a chip. -/
inductive ChipPart
  | part56
  | part58
  deriving DecidableEq, Repr

namespace ChipPart

/-- The part number as printed on the chip. -/
def label : ChipPart → String
  | .part56 => "56XX"
  | .part58 => "58XX"

/-- The parts by their labels. -/
def byLabel : List (String × ChipPart) := [.part56, .part58].map fun p => (p.label, p)

end ChipPart

/-- A chip's job and part. -/
structure ChipSpec where
  kind : ChipKind
  part : ChipPart
  deriving DecidableEq, Repr

/-- The chips of the two slots, and whether lamps are fitted. -/
structure IoLayout where
  slots : Pair ChipSpec
  lamps : Bool
  deriving DecidableEq, Repr

/-- The first slot with a chip for a job. -/
def IoLayout.slotOf (l : IoLayout) (kind : ChipKind) : Option Nat :=
  if l.slots.fst.kind = kind then some 0
  else if l.slots.snd.kind = kind then some 1
  else none

/-- The bindings of a chip's ports. -/
structure Wiring where
  reads : Vector (ReadPort InputGroup) 4
  writes : Vector (WritePort OutputLatch) 2
  deriving DecidableEq

/-- How a chip is wired for its job. -/
def ChipKind.wiring (kind : ChipKind) (lamps : Bool) : Wiring :=
  match kind with
  | .playerCoin =>
    { reads := #v[.input .buttons .high, .input .joysticks .low, .input .joysticks .high,
        .input .buttons .low]
      writes := if lamps then #v[.drive .lamps, .drive .counter] else #v[.unbound, .unbound] }
  | .dipSwitch =>
    { reads := #v[.input .dipA .high, .input .dipB .low, .input .dipB .high, .input .dipA .low]
      writes := #v[.unbound, .unbound] }

end Arcade
