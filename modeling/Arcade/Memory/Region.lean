import Arcade.Pair
import Arcade.Processor

/-!
# `Arcade.Memory.Region` — the shared memories and their cells

Three memories are shared by two processors each. A `Cell` is one byte of one of them; its offset is
within the memory by construction.

## Contents
- `Region` with its size, tag and owners.
- `Cell`.
-/

namespace Arcade

/-- A memory that two processors share. -/
inductive Region
  /-- The tile map, shared by main and sub. -/
  | tilemap
  /-- Work memory, shared by main and sub; it holds the sprite tables. -/
  | work
  /-- Sound memory, shared by main and sound. -/
  | sound
  deriving DecidableEq, Repr, Inhabited

namespace Region

/-- The regions in order. -/
def all : List Region := [.tilemap, .work, .sound]

/-- The number of bytes of a region. -/
def size : Region → Nat
  | .tilemap => 0x800
  | .work => 0x1800
  | .sound => 0x400

/-- The tag under which a region is saved. -/
def tag : Region → String
  | .tilemap => "Tilemap"
  | .work => "WorkRam"
  | .sound => "SoundRam"

/-- The regions by their tags. -/
def byTag : List (String × Region) := all.map fun r => (r.tag, r)

/-- The two processors that reach a region. -/
def owners : Region → Pair Processor
  | .tilemap => ⟨.main, .sub⟩
  | .work => ⟨.main, .sub⟩
  | .sound => ⟨.main, .sound⟩

/-- Whether a processor reaches a region. -/
def isOwnedBy (r : Region) (p : Processor) : Bool := r.owners.fst = p || r.owners.snd = p

theorem mem_all (r : Region) : r ∈ all := by cases r <;> decide

theorem lookup_tag (r : Region) : byTag.lookup r.tag = some r := by cases r <;> decide

end Region

/-- One byte of a shared memory. -/
structure Cell where
  region : Region
  offset : Fin region.size
  deriving DecidableEq

/-- The cell of a region at an offset, if the region reaches that far. -/
def Cell.of? (r : Region) (offset : Nat) : Option Cell :=
  if h : offset < r.size then some ⟨r, offset, h⟩ else none

end Arcade
