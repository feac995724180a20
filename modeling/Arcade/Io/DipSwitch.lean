/-!
# `Arcade.Io.DipSwitch` — what the switch banks mean

A bank of eight switches is divided into fields. A field's settings are the values its bits can
have, each with a label; a value that no setting has goes unlabelled.

## Contents
- `DipSetting`, `DipField`, `DipField.describe`.
- `DipBank.default` and `DipBank.describe` for a list of fields.
- `DipProfile`: the fields of the two banks of a machine.
-/

namespace Arcade

/-- A value of a field and what it means. -/
structure DipSetting where
  value : UInt8
  label : String
  deriving DecidableEq, Repr

/-- A field of a bank. -/
structure DipField where
  name : String
  /-- The bits of the bank that make up the field. -/
  mask : UInt8
  /-- How the field is set at the factory. -/
  default : UInt8
  settings : List DipSetting
  deriving DecidableEq, Repr

/-- The label of the setting that a bank has in this field. -/
def DipField.describe (f : DipField) (bank : UInt8) : Option String :=
  (f.settings.find? fun s => s.value = bank &&& f.mask).map DipSetting.label

namespace DipBank

/-- The bank as set at the factory: every field at its default, and all other switches on. Of fields
that overlap, the later one decides. -/
def default (fields : List DipField) : UInt8 :=
  fields.foldl (fun bank f => (bank &&& ~~~ f.mask) ||| (f.default &&& f.mask)) 0xFF

/-- The name of every field with the label of its setting, or a question mark. -/
def describe (fields : List DipField) (bank : UInt8) : List (String × String) :=
  fields.map fun f => (f.name, (f.describe bank).getD "?")

end DipBank

/-- Which table of bonus lives a machine has. -/
inductive BonusTable
  | gaplus
  | galaga3a
  | galaga3m
  deriving DecidableEq, Repr

/-- The tag of a table. -/
def BonusTable.tag : BonusTable → String
  | .gaplus => "Gaplus"
  | .galaga3a => "Galaga3a"
  | .galaga3m => "Galaga3m"

/-- How the switch banks of a machine differ from those of others. -/
structure DipProfile where
  bonus : BonusTable
  /-- Whether the top switch of the second bank turns the service mode on. -/
  serviceSwitch : Bool
  deriving DecidableEq, Repr

namespace DipProfile

/-- The settings of a field for coins, given its four values. -/
def coinage (three two one half : UInt8) : List DipSetting :=
  [⟨three, "3 Coins/1 Credit"⟩, ⟨two, "2 Coins/1 Credit"⟩, ⟨one, "1 Coin/1 Credit"⟩,
    ⟨half, "1 Coin/2 Credits"⟩]

/-- The fields of the first bank, which all machines share. -/
def fieldsA (_ : DipProfile) : List DipField :=
  [ { name := "Lives", mask := 0xC0, default := 0xC0
      settings := [⟨0x80, "2"⟩, ⟨0xC0, "3"⟩, ⟨0x40, "4"⟩, ⟨0x00, "5"⟩] },
    { name := "Coin A", mask := 0x30, default := 0x30
      settings := coinage 0x00 0x10 0x30 0x20 },
    { name := "Demo Sounds", mask := 0x08, default := 0x08
      settings := [⟨0x00, "Off"⟩, ⟨0x08, "On"⟩] },
    { name := "Unused", mask := 0x04, default := 0x04
      settings := [⟨0x04, "Off"⟩, ⟨0x00, "On"⟩] },
    { name := "Coin B", mask := 0x03, default := 0x03
      settings := coinage 0x00 0x01 0x03 0x02 } ]

/-- The field for the difficulty. -/
def difficulty : DipField :=
  { name := "Difficulty", mask := 0x70, default := 0x70
    settings :=
      [⟨0x70, "0 - Standard"⟩, ⟨0x60, "1 - Easiest"⟩, ⟨0x50, "2"⟩, ⟨0x40, "3"⟩, ⟨0x30, "4"⟩,
        ⟨0x20, "5"⟩, ⟨0x10, "6"⟩, ⟨0x00, "7 - Hardest"⟩] }

/-- The field that lets a round be skipped. -/
def roundAdvance : DipField :=
  { name := "Round Advance", mask := 0x08, default := 0x08
    settings := [⟨0x08, "Off"⟩, ⟨0x00, "On"⟩] }

/-- The factory value of the field for bonus lives, and its settings. -/
def bonusSettings : BonusTable → UInt8 × List DipSetting
  | .gaplus =>
    (0x00,
      [⟨0x00, "30k 70k and every 70k"⟩, ⟨0x01, "30k 100k and every 100k"⟩,
        ⟨0x02, "30k 100k and every 200k"⟩, ⟨0x03, "50k 100k and every 100k"⟩,
        ⟨0x04, "50k 100k and every 200k"⟩, ⟨0x07, "50k 150k and every 150k"⟩,
        ⟨0x05, "50k 150k and every 300k"⟩, ⟨0x06, "50k 150k"⟩])
  | .galaga3a =>
    (0x02,
      [⟨0x02, "30k 80k and every 100k"⟩, ⟨0x03, "30k 100k and every 100k"⟩,
        ⟨0x04, "30k 100k and every 150k"⟩, ⟨0x07, "30k 100k and every 200k"⟩,
        ⟨0x05, "30k 100k and every 300k"⟩, ⟨0x06, "30k 150k"⟩,
        ⟨0x00, "50k 150k and every 150k"⟩, ⟨0x01, "50k 150k and every 200k"⟩])
  | .galaga3m =>
    (0x00,
      [⟨0x00, "30k 150k and every 600k"⟩, ⟨0x01, "50k 150k and every 300k"⟩,
        ⟨0x02, "50k 150k and every 600k"⟩, ⟨0x03, "50k 200k and every 300k"⟩,
        ⟨0x04, "100k 300k and every 300k"⟩, ⟨0x07, "100k 300k and every 600k"⟩,
        ⟨0x05, "150k 400k and every 900k"⟩, ⟨0x06, "150k 400k"⟩])

/-- The fields of the second bank. -/
def fieldsB (p : DipProfile) : List DipField :=
  let (bonusDefault, bonuses) := bonusSettings p.bonus
  [ { name := if p.serviceSwitch then "Service Mode" else "Unknown"
      mask := 0x80, default := 0x80
      settings := [⟨0x80, "Off"⟩, ⟨0x00, "On"⟩] },
    difficulty,
    roundAdvance,
    { name := "Bonus Life", mask := 0x07, default := bonusDefault, settings := bonuses } ]

/-- The first bank as set at the factory. -/
def defaultA (p : DipProfile) : UInt8 := DipBank.default p.fieldsA

/-- The second bank as set at the factory. -/
def defaultB (p : DipProfile) : UInt8 := DipBank.default p.fieldsB

end DipProfile

end Arcade
