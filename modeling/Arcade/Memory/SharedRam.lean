import Arcade.Memory.Region

/-!
# `Arcade.Memory.SharedRam` — the contents of the shared memories

Each memory is a vector of exactly its size, so every `Cell` can be read and written.

## Contents
- `SharedRam` with `blank`, `region`, `read`, `write`, `clear`.
- `read_write_self`, `read_write_of_ne`: a write changes its own cell and no other.
- `SharedRam.shapeTable`, `placeTable`, `attributeTable`: the sprite tables inside work memory.
-/

namespace Arcade

/-- The contents of the shared memories. -/
structure SharedRam where
  tilemap : Vector UInt8 (Region.size .tilemap)
  work : Vector UInt8 (Region.size .work)
  sound : Vector UInt8 (Region.size .sound)
  deriving DecidableEq

namespace SharedRam

/-- Memories that hold zeros. -/
def blank : SharedRam :=
  { tilemap := Vector.replicate _ 0, work := Vector.replicate _ 0, sound := Vector.replicate _ 0 }

instance : Inhabited SharedRam := ⟨blank⟩

/-- The bytes of a region. -/
def region (m : SharedRam) : (r : Region) → Vector UInt8 r.size
  | .tilemap => m.tilemap
  | .work => m.work
  | .sound => m.sound

/-- The byte in a cell. -/
def read (m : SharedRam) : Cell → UInt8
  | ⟨.tilemap, i⟩ => m.tilemap[i]
  | ⟨.work, i⟩ => m.work[i]
  | ⟨.sound, i⟩ => m.sound[i]

/-- Puts a byte into a cell. -/
def write (m : SharedRam) (c : Cell) (v : UInt8) : SharedRam :=
  match c, m with
  | ⟨.tilemap, i⟩, ⟨t, w, s⟩ => ⟨t.set i v, w, s⟩
  | ⟨.work, i⟩, ⟨t, w, s⟩ => ⟨t, w.set i v, s⟩
  | ⟨.sound, i⟩, ⟨t, w, s⟩ => ⟨t, w, s.set i v⟩

/-- Zeros a region. -/
def clearRegion (m : SharedRam) : Region → SharedRam
  | .tilemap => { m with tilemap := blank.tilemap }
  | .work => { m with work := blank.work }
  | .sound => { m with sound := blank.sound }

/-- The bytes of a region as a list. -/
def bytes (m : SharedRam) (r : Region) : List UInt8 := (m.region r).toList

/-! ## Laws of reading and writing -/

theorem read_blank (c : Cell) : blank.read c = 0 := by
  obtain ⟨r, i⟩ := c
  cases r <;> simp [read, blank]

/-- **A cell holds what was written to it last.** -/
@[simp] theorem read_write_self (m : SharedRam) (c : Cell) (v : UInt8) :
    (m.write c v).read c = v := by
  obtain ⟨r, i⟩ := c
  cases r <;> simp [read, write]

/-- **A write leaves every other cell alone.** -/
theorem read_write_of_ne (m : SharedRam) {c d : Cell} (v : UInt8) (h : d ≠ c) :
    (m.write c v).read d = m.read d := by
  obtain ⟨r, i⟩ := c
  obtain ⟨q, j⟩ := d
  by_cases hr : q = r
  · subst hr
    have hij : i.val ≠ j.val := fun e => h (by rw [Fin.ext e])
    cases q <;> exact Vector.getElem_set_ne i.isLt j.isLt hij
  · cases r <;> cases q <;> first | rfl | exact absurd rfl hr

@[simp] theorem length_bytes (m : SharedRam) (r : Region) : (m.bytes r).length = r.size := by
  simp [bytes]

/-! ## Sprite tables -/

/-- The length of a sprite table. -/
def spriteTableLength : Nat := 0x80

/-- The sprite table that begins at an offset of work memory. -/
def spriteTable (m : SharedRam) (start : Nat) : List UInt8 :=
  ((m.bytes .work).drop start).take spriteTableLength

/-- The table of the sprites' shapes. -/
def shapeTable (m : SharedRam) : List UInt8 := m.spriteTable 0x780

/-- The table of the sprites' places. -/
def placeTable (m : SharedRam) : List UInt8 := m.spriteTable 0xF80

/-- The table of the sprites' attributes. -/
def attributeTable (m : SharedRam) : List UInt8 := m.spriteTable 0x1780

end SharedRam

end Arcade
