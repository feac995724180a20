import Arcade.Io.DipSwitch
import Arcade.Io.Layout
import Arcade.Rom

/-!
# `Arcade.Revision` — the known revisions of the machine

Revisions differ in their program chips, in the parts fitted in the I/O slots, in whether lamps are
fitted, and in the meaning of some switches.

## Contents
- `ProgramChips`, `Revision`.
- `Revision.all` and `Revision.find?`, which takes names in any case.
-/

namespace Arcade

/-- The program chips of the three processors. -/
structure ProgramChips where
  main : Vector RomChip 3
  sub : Vector RomChip 3
  sound : Vector RomChip 1
  deriving DecidableEq

/-- The chips of one processor's program, in order. -/
def ProgramChips.of (c : ProgramChips) : Processor → List RomChip
  | .main => c.main.toList
  | .sub => c.sub.toList
  | .sound => c.sound.toList

/-- A revision of the machine. -/
structure Revision where
  name : String
  /-- The revision it is a clone of. -/
  parent : Option String
  year : Nat
  description : String
  chips : ProgramChips
  io : IoLayout
  dips : DipProfile
  deriving DecidableEq

namespace Revision

/-- The sound program, which all revisions share. -/
def soundChips : Vector RomChip 1 := #v[⟨"gp2-1.4b", 0xed8aa206⟩]

/-- The sub program of the two latest revisions. -/
def lateSubChips : Vector RomChip 3 :=
  #v[⟨"gp3-8b.11d", 0xf5e056d1⟩, ⟨"gp2-7.11c", 0x0621f7df⟩, ⟨"gp3-6b.11b", 0x026491b6⟩]

/-- The sub program of the other sets of the second title. -/
def setSubChips : Vector RomChip 3 :=
  #v[⟨"gal3_6l.bin", 0x9ec3dce5⟩, ⟨"gp2-7.11c", 0x0621f7df⟩, ⟨"gal3_6n.bin", 0x6a2942c5⟩]

/-- The usual chips: the 56XX serves players and coins, the 58XX reads the switches. -/
def usualSlots : Pair ChipSpec := ⟨⟨.playerCoin, .part56⟩, ⟨.dipSwitch, .part58⟩⟩

/-- The usual meaning of the switches. -/
def usualDips : DipProfile := ⟨.gaplus, false⟩

/-- Every known revision. -/
def all : List Revision :=
  [ { name := "gaplus", parent := none, year := 1984, description := "Gaplus (rev. D)"
      chips :=
        { main := #v[⟨"gp3-4c.8d", 0x10d7f64c⟩, ⟨"gp3-3c.8c", 0x962411e8⟩,
            ⟨"gp3-2d.8b", 0xecc01bdb⟩]
          sub := lateSubChips
          sound := soundChips }
      io := ⟨usualSlots, true⟩
      dips := usualDips },
    { name := "galaga3", parent := some "gaplus", year := 1984
      description := "Galaga 3 (rev. C)"
      chips :=
        { main := #v[⟨"gp3-4c.8d", 0x10d7f64c⟩, ⟨"gp3-3c.8c", 0x962411e8⟩,
            ⟨"gp3-2c.8b", 0xf72d6fc5⟩]
          sub := lateSubChips
          sound := soundChips }
      io := ⟨usualSlots, true⟩
      dips := usualDips },
    { name := "gapluso", parent := some "gaplus", year := 1984, description := "Gaplus (rev. B)"
      chips :=
        { main := #v[⟨"gp2-4.8d", 0xe525d75d⟩, ⟨"gp2-3b.8c", 0xd77840a4⟩,
            ⟨"gp2-2b.8b", 0xb3cb90db⟩]
          sub := #v[⟨"gp2-8.11d", 0x42b9fd7c⟩, ⟨"gp2-7.11c", 0x0621f7df⟩,
            ⟨"gp2-6.11b", 0x75b18652⟩]
          sound := soundChips }
      io := ⟨usualSlots, false⟩
      dips := ⟨.gaplus, true⟩ },
    { name := "gaplusa", parent := some "gaplus", year := 1984
      description := "Gaplus (alternate hardware)"
      chips :=
        { main := #v[⟨"gp2-4b.8d", 0x484f11e0⟩, ⟨"gp2-3c.8c", 0xa74b0266⟩,
            ⟨"gp2-2d.8b", 0x69fdfdb7⟩]
          sub := #v[⟨"gp2-8b.11d", 0xbff601a6⟩, ⟨"gp2-7.11c", 0x0621f7df⟩,
            ⟨"gp2-6b.11b", 0x14cd61ea⟩]
          sound := soundChips }
      io := ⟨⟨⟨.playerCoin, .part58⟩, ⟨.dipSwitch, .part56⟩⟩, false⟩
      dips := ⟨.gaplus, true⟩ },
    { name := "galaga3a", parent := some "gaplus", year := 1984
      description := "Galaga 3 (set 2)"
      chips :=
        { main := #v[⟨"gal3_9e.bin", 0xf4845e7f⟩, ⟨"gal3_9d.bin", 0x86fac687⟩,
            ⟨"gal3_9c.bin", 0xf1b00073⟩]
          sub := setSubChips
          sound := soundChips }
      io := ⟨usualSlots, true⟩
      dips := ⟨.galaga3a, false⟩ },
    { name := "galaga3m", parent := some "gaplus", year := 1984
      description := "Galaga 3 (set 3)"
      chips :=
        { main := #v[⟨"m1.9e", 0xe392704e⟩, ⟨"gal3_9d.bin", 0x86fac687⟩,
            ⟨"gal3_9c.bin", 0xf1b00073⟩]
          sub := setSubChips
          sound := soundChips }
      io := ⟨usualSlots, true⟩
      dips := ⟨.galaga3m, false⟩ } ]

/-- Whether two texts differ at most in the case of ASCII letters. -/
def sameName (s t : String) : Bool := s.toList.map Char.toLower = t.toList.map Char.toLower

/-- The revision of that name, in any case. -/
def find? (name : String) : Option Revision := all.find? fun r => sameName r.name name

/-- The line that lists a revision. -/
def listing (r : Revision) : String :=
  let clone :=
    match r.parent with
    | none => ""
    | some parent => s!" [clone of {parent}]"
  s!"{Column.left 10 r.name} {r.description} ({r.year}){clone}"

end Revision

end Arcade
