import Arcade.Proofs.Board.DataBus
import Arcade.Proofs.Memory.Decode
import Arcade.Proofs.Memory.Sprites

/-!
# `Arcade.Proofs.Board.Picture` — the picture as the processors see it

The video hardware does not go over the bus: it takes the tile map, and stretches of work memory as the sprite
tables. Main and sub find the same bytes at addresses of their own, so a picture can be put together from
what they would read. Each address belongs to one part of the picture at most, a tile, a sprite or a star
field register, and a write to it changes nothing else.

## Contents
- `Snapshot.Part`, `Snapshot.SameAt`: the parts of a picture.
- `SpriteTable.first`: where main and sub find the sprite tables; `AddressMap.pictured`: the part to which an
  address belongs.
- `SharedRam.spriteTables`, `sprites_snapshot`: the sprites of a picture in terms of the tables.
- `Board.seen`, `seen_video`, `seen_sprite`: what main and sub read.
- `sameAt_write`: what a write may change.
- `snapshot_as_seen`.
-/

namespace Arcade

open AddressMap

/-! ## Parts of a picture -/

/-- A part of a picture: a byte of the tile map, a sprite, or a star field register. -/
inductive Snapshot.Part
  | tile (index : Nat)
  | sprite (number : Nat)
  | star (register : Nat)
  deriving DecidableEq

/-- Two pictures are the same in a part. -/
def Snapshot.SameAt (s s' : Snapshot) : Snapshot.Part → Prop
  | .tile index => s'.tilemap[index]? = s.tilemap[index]?
  | .sprite number => s'.sprites[number]? = s.sprites[number]?
  | .star register => s'.starfield[register]? = s.starfield[register]?

/-- **A picture consists of its parts**, and the number of its frame. -/
theorem Snapshot.eq_of_sameAt {s s' : Snapshot} (hframe : s'.frame = s.frame)
    (h : ∀ part, s.SameAt s' part) : s' = s := by
  obtain ⟨frame, tilemap, sprites, starfield⟩ := s
  obtain ⟨frame', tilemap', sprites', starfield'⟩ := s'
  obtain rfl : frame' = frame := hframe
  have hbytes {n : Nat} {v v' : Vector UInt8 n} (hv : ∀ i : Nat, v'[i]? = v[i]?) : v' = v := by
    refine Vector.toList_inj.mp (List.ext_getElem? fun i => ?_)
    rw [Vector.getElem?_toList, Vector.getElem?_toList, hv]
  obtain rfl : tilemap' = tilemap := hbytes fun i => h (.tile i)
  obtain rfl : sprites' = sprites := List.ext_getElem? fun n => h (.sprite n)
  obtain rfl : starfield' = starfield := hbytes fun r => h (.star r)
  rfl

/-- The first address of a sprite table for main and sub. -/
def SpriteTable.first : SpriteTable → Nat
  | .shapes => 0x0F80
  | .places => 0x1780
  | .attributes => 0x1F80

/-- Whether an address is among those of the sprite tables. -/
def AddressMap.inSpriteTable (n : Nat) : Bool :=
  (0x0F80 ≤ n && n ≤ 0x0FFF) || (0x1780 ≤ n && n ≤ 0x17FF) || (0x1F80 ≤ n && n ≤ 0x1FFF)

/-- The part of a picture to which an address of a processor belongs when it is written to. -/
def AddressMap.pictured (p : Processor) (a : UInt16) : Option Snapshot.Part :=
  if p ≠ .sound ∧ a.toNat < 0x0800 then some (.tile a.toNat)
  else if p ≠ .sound ∧ inSpriteTable a.toNat then some (.sprite (a.toNat % 0x80 / 2))
  else if p = .main ∧ 0xA000 ≤ a ∧ a ≤ 0xA7FF then some (.star (a.toNat % 4))
  else none

/-! ## The sprite tables -/

/-- A byte of a sprite table lies in work memory. -/
theorem SpriteTable.offset_lt (k : SpriteTable) {i : Nat} (hi : i < 0x80) :
    k.first - 0x800 + i < Region.work.size := by
  show k.first - 0x800 + i < 0x1800
  cases k <;> simp only [first] <;> omega

namespace SharedRam

/-- The sprite tables as they stand in work memory. -/
def spriteTables (m : SharedRam) (k : SpriteTable) : List UInt8 := m.spriteTable (k.first - 0x800)

/-- A byte of a sprite is a byte of work memory. -/
theorem bytesAt_spriteTables (m : SharedRam) (k : SpriteTable) {n half : Nat} (hi : 2 * n + half < 0x80) :
    Sprite.bytesAt m.spriteTables n k half =
      m.read ⟨.work, k.first - 0x800 + (2 * n + half), k.offset_lt hi⟩ := by
  have hlength : k.first - 0x800 + (2 * n + half) < (m.bytes .work).length := by
    rw [length_bytes]
    exact k.offset_lt hi
  have hshort : 2 * n + half < spriteTableLength := hi
  rw [Sprite.bytesAt, spriteTables, spriteTable, List.getD_eq_getElem?_getD, List.getElem?_take_of_lt hshort,
    List.getElem?_drop, List.getElem?_eq_getElem hlength, Option.getD_some]
  exact Vector.getElem_toList hlength

end SharedRam

namespace Board

variable {S : Type}

/-- A sprite of a picture is what its bytes in work memory say. -/
theorem sprites_snapshot (b : Board S) (frame : UInt64) {n : Nat} (hn : n < Sprite.count) :
    (b.snapshot frame).sprites[n]? = some (Sprite.ofBytes (Sprite.bytesAt b.memory.spriteTables n)) := by
  show (Sprite.ofTables b.memory.spriteTables)[n]? = _
  rw [Sprite.ofTables_eq_map, List.getElem?_map, List.getElem?_range hn]
  rfl

/-! ## What main and sub see -/

/-- What a processor would read at an address. -/
def seen (b : Board S) (p : Processor) (n : Nat) : UInt8 := (b.read p (UInt16.ofNat n)).1

/-- **Main and sub see every byte of the tile map and of work memory.** -/
theorem seen_video (b : Board S) {p : Processor} (hp : p ≠ .sound) {r : Region} (hr : r ≠ .sound)
    (i : Fin r.size) : b.seen p (ramFirst p r + i.val) = b.memory.read ⟨r, i⟩ := by
  have hbound : ramFirst p r + i.val < 2 ^ 16 := by
    have hi := i.isLt
    cases r with
    | tilemap | work => cases p <;> simp only [ramFirst, Region.size] at hi ⊢ <;> omega
    | sound => exact absurd rfl hr
  have hd : decode p (UInt16.ofNat (ramFirst p r + i.val)) .read = .ram ⟨r, i⟩ :=
    (decode_video_iff hr).mpr ⟨hp, UInt16.toNat_ofNat_of_lt' hbound⟩
  unfold seen read
  rw [hd]

/-- Main and sub see the bytes of the sprites. -/
theorem seen_sprite (b : Board S) {p : Processor} (hp : p ≠ .sound) (k : SpriteTable) {n half : Nat}
    (hi : 2 * n + half < 0x80) :
    b.seen p (k.first + half + 2 * n) = Sprite.bytesAt b.memory.spriteTables n k half := by
  have haddress : k.first + half + 2 * n = ramFirst p .work + (k.first - 0x800 + (2 * n + half)) := by
    cases p <;> cases k <;> simp only [ramFirst, SpriteTable.first] <;> omega
  rw [SharedRam.bytesAt_spriteTables _ k hi, haddress]
  exact b.seen_video hp (by decide) ⟨_, k.offset_lt hi⟩

end Board

/-! ## What a write changes -/

namespace AddressMap

variable {p : Processor} {a : UInt16}

theorem pictured_of_tile {i : Fin Region.tilemap.size} (h : decode p a .write = .ram ⟨.tilemap, i⟩) :
    pictured p a = some (.tile i.val) := by
  obtain ⟨hp, ha⟩ := (decode_video_iff (by decide)).mp h
  have hi : i.val < 0x800 := i.isLt
  have haddress : a.toNat = i.val := by
    rw [ha]
    cases p <;> exact Nat.zero_add _
  rw [pictured, if_pos ⟨hp, by omega⟩, haddress]

theorem pictured_of_sprite {k : SpriteTable} {n half : Nat} (hi : 2 * n + half < 0x80) (hhalf : half < 2)
    (h : decode p a .write = .ram ⟨.work, k.first - 0x800 + (2 * n + half), k.offset_lt hi⟩) :
    pictured p a = some (.sprite n) := by
  obtain ⟨hp, ha⟩ := (decode_video_iff (by decide)).mp h
  have haddress : a.toNat = k.first + (2 * n + half) := by
    rw [ha]
    cases p <;> cases k <;> simp only [ramFirst, SpriteTable.first] <;> omega
  have htable : inSpriteTable a.toNat = true := by
    simp only [inSpriteTable, Bool.or_eq_true, Bool.and_eq_true, decide_eq_true_eq]
    cases k <;> simp only [SpriteTable.first] at haddress <;> omega
  have hsprite : a.toNat % 0x80 / 2 = n := by
    -- each table begins at a multiple of its length
    cases k <;> simp only [SpriteTable.first] at haddress <;> omega
  have hbeyond : ¬ a.toNat < 0x0800 := by
    cases k <;> simp only [SpriteTable.first] at haddress <;> omega
  rw [pictured, if_neg fun h => hbeyond h.2, if_pos ⟨hp, htable⟩, hsprite]

theorem pictured_of_star {r : Fin 4} (h : decode p a .write = .control (.starfield r)) :
    pictured p a = some (.star r.val) := by
  obtain ⟨rfl, hlow, hhigh, hr⟩ := decode_starfield_iff.mp h
  have hfirst : 0xA000 ≤ a.toNat := UInt16.le_iff_toNat_le.mp hlow
  have htable : ¬ inSpriteTable a.toNat = true := by
    simp only [inSpriteTable, Bool.or_eq_true, Bool.and_eq_true, decide_eq_true_eq]
    omega
  rw [pictured, if_neg fun h => absurd h.2 (by omega), if_neg fun h => htable h.2, if_pos ⟨rfl, hlow, hhigh⟩, hr]

end AddressMap

namespace Board

variable {S : Type} [SoundChip S]

/-- **A write changes only the part of the picture to which its address belongs.** -/
theorem sameAt_write (b : Board S) {p : Processor} {a : UInt16} (data : UInt8) (frame frame' : UInt64)
    {part : Snapshot.Part} (h : pictured p a ≠ some part) :
    (b.snapshot frame).SameAt ((b.write p a data).snapshot frame') part := by
  cases part with
  | tile i =>
    show (b.write p a data).memory.tilemap[i]? = b.memory.tilemap[i]?
    by_cases hi : i < Region.size .tilemap
    · have hcell := b.read_memory_write p a data ⟨.tilemap, i, hi⟩
      rw [if_neg fun hd => h (pictured_of_tile hd)] at hcell
      rw [Vector.getElem?_eq_getElem hi, Vector.getElem?_eq_getElem hi]
      exact congrArg some hcell
    · rw [Vector.getElem?_eq_none (Nat.le_of_not_lt hi), Vector.getElem?_eq_none (Nat.le_of_not_lt hi)]
  | sprite n =>
    show ((b.write p a data).snapshot frame').sprites[n]? = (b.snapshot frame).sprites[n]?
    by_cases hn : n < Sprite.count
    · have hbyte (k : SpriteTable) {half : Nat} (hhalf : half < 2) :
          Sprite.bytesAt (b.write p a data).memory.spriteTables n k half =
            Sprite.bytesAt b.memory.spriteTables n k half := by
        have hi : 2 * n + half < 0x80 := by
          have hn : n < 64 := hn
          omega
        rw [SharedRam.bytesAt_spriteTables _ k hi, SharedRam.bytesAt_spriteTables _ k hi, read_memory_write,
          if_neg fun hd => h (pictured_of_sprite hi hhalf hd)]
      rw [sprites_snapshot _ _ hn, sprites_snapshot _ _ hn]
      simp only [Sprite.ofBytes, hbyte, Nat.zero_lt_two, Nat.one_lt_two]
    · have hlength (c : Board S) (frame : UInt64) : (c.snapshot frame).sprites.length ≤ n :=
        (Sprite.length_decodeAll _ _ _).trans_le (Nat.le_of_not_lt hn)
      rw [List.getElem?_eq_none (hlength _ _), List.getElem?_eq_none (hlength _ _)]
  | star r =>
    show (b.write p a data).starfield[r]? = b.starfield[r]?
    by_cases hr : r < 4
    · have hregister := b.getElem_starfield_write p a data ⟨r, hr⟩
      rw [if_neg fun hd => h (pictured_of_star hd)] at hregister
      rw [Vector.getElem?_eq_getElem hr, Vector.getElem?_eq_getElem hr]
      exact congrArg some hregister
    · rw [Vector.getElem?_eq_none (Nat.le_of_not_lt hr), Vector.getElem?_eq_none (Nat.le_of_not_lt hr)]

/-- **The picture is what the processors see.** Whatever the board, main and sub would read

- each byte of the picture's tile map at its own number as the address;
- six bytes for each sprite, two in each table, of which the sprite is made (`Sprite.IsDescribedBy`);

and the star field is that of the registers. A write of any processor changes at most the part of the picture
to which its address belongs, and nothing of it if that is none. -/
theorem snapshot_as_seen (b : Board S) (frame : UInt64) :
    (∀ p, p ≠ .sound →
      (∀ i, i < 0x800 → (b.snapshot frame).tilemap[i]? = some (b.seen p i)) ∧
      ∀ n, n < 64 → ∃ s, (b.snapshot frame).sprites[n]? = some s ∧
        s.IsDescribedBy (b.seen p (0x0F80 + 2 * n)) (b.seen p (0x0F81 + 2 * n)) (b.seen p (0x1780 + 2 * n))
          (b.seen p (0x1781 + 2 * n)) (b.seen p (0x1F80 + 2 * n)) (b.seen p (0x1F81 + 2 * n))) ∧
    (b.snapshot frame).sprites.length = 64 ∧
    (b.snapshot frame).starfield = b.starfield ∧
    ∀ p a data frame',
      (∀ part, pictured p a ≠ some part →
        (b.snapshot frame).SameAt ((b.write p a data).snapshot frame') part) ∧
      (pictured p a = none → (b.write p a data).snapshot frame' = b.snapshot frame') := by
  refine ⟨?_, Sprite.length_decodeAll _ _ _, rfl, ?_⟩
  · intro p hp
    constructor
    · intro i hi
      have hfirst : ramFirst p .tilemap + i = i := by cases p <;> exact Nat.zero_add i
      have hseen : b.seen p (ramFirst p .tilemap + i) = b.memory.tilemap[i] :=
        b.seen_video hp (r := .tilemap) (by decide) ⟨i, hi⟩
      rw [hfirst] at hseen
      rw [hseen]
      exact Vector.getElem?_eq_getElem hi
    · intro n hn
      refine ⟨_, b.sprites_snapshot frame hn, ?_⟩
      have hdescribed := Sprite.ofBytes_isDescribedBy (Sprite.bytesAt b.memory.spriteTables n)
      have hseen (k : SpriteTable) (half : Nat) (hhalf : half < 2) :
          b.seen p (k.first + half + 2 * n) = Sprite.bytesAt b.memory.spriteTables n k half :=
        b.seen_sprite hp k (by omega)
      rw [← hseen .shapes 0 (by decide), ← hseen .shapes 1 (by decide), ← hseen .places 0 (by decide),
        ← hseen .places 1 (by decide), ← hseen .attributes 0 (by decide), ← hseen .attributes 1 (by decide)]
        at hdescribed
      exact hdescribed
  · intro p a data frame'
    constructor
    · intro part h
      exact b.sameAt_write data frame frame' h
    · intro h
      refine Snapshot.eq_of_sameAt rfl fun part => b.sameAt_write data frame' frame' ?_
      rw [h]
      exact nofun

/-- Main and sub have written the last sprite between them, and sub sees it as it is shown. Sound does not reach
the picture, and a star field register is no part of the sprite. -/
theorem snapshot_as_seen_last_sprite :
    let layout : IoLayout := ⟨⟨⟨.playerCoin, .part56⟩, ⟨.dipSwitch, .part58⟩⟩, true⟩
    let ops : List Operation :=
      [.write .main 0x0FFE 0x9A, .write .sub 0x1FFE 0x40, .write .main 0x1FFF 0x03, .write .sub 0x17FF 0x10]
    let b := (stock layout (.atRest 0xFF 0xF8) 8 SoundRegisters.silent).after ops
    Processor.sub ≠ .sound ∧
      (∃ s, (b.snapshot 7).sprites[63]? = some s ∧ s.code.toNat = 0x19A ∧ s.x.toNat = 0x110 ∧
        s.enabled = false) ∧
      pictured .sound 0x0FFE = none ∧ (b.write .sound 0x0FFE 0x55).snapshot 8 = b.snapshot 8 ∧
      pictured .main 0xA002 ≠ some (.sprite 63) ∧
      (b.snapshot 7).SameAt ((b.write .main 0xA002 0x55).snapshot 8) (.sprite 63) := by
  intro layout ops b
  have hsub : Processor.sub ≠ .sound := by decide
  have hsound : pictured .sound 0x0FFE = none := by decide
  have hstar : pictured .main 0xA002 ≠ some (.sprite 63) := by decide
  obtain ⟨hseen, -, -, hwrite⟩ := b.snapshot_as_seen 7
  obtain ⟨s, hs, hdescribed⟩ := (hseen .sub hsub).2 63 (by decide)
  refine ⟨hsub, ⟨s, hs, ?_⟩, hsound, (hwrite .sound 0x0FFE 0x55 8).2 hsound, hstar,
    (hwrite .main 0xA002 0x55 8).1 _ hstar⟩
  rw [hdescribed.code, hdescribed.x, hdescribed.enabled]
  decide +kernel

end Board

end Arcade
