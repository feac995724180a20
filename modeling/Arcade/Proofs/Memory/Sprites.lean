import Arcade.Memory.Sprite
import Arcade.Proofs.Bits
import Mathlib.Data.List.Basic

/-!
# `Arcade.Proofs.Memory.Sprites` — what the sprite tables say, and what they leave open

A sprite takes two bytes of each of three tables. Its numbers and flags are fields of those bytes, and no
two of them share a bit, so the bytes can be read off the sprite again, but for the bits that no field has.
These are the bits that the tables leave open (`SpriteTable.ignores`): tables give the same sprites exactly
if they agree on all others, and whatever fits into the fields can be put into tables.

## Contents
- `Sprite.IsDescribedBy`: the fields of a sprite in plain numbers, from its six bytes; `decode_isDescribedBy`.
- `SpriteTable`, `SpriteTable.ignores`, `Sprite.ofBytes`, `ofBytes_eq_iff`: bytes that give the same sprite.
- `Sprite.byte`, `Sprite.Fits`, `ofBytes_byte`: the bytes of a sprite that fits into the fields.
- `Sprite.ofTables`, `ofTables_eq_map`: the sprites of whole tables, one by one.
- `ofTables_eq_iff`, `ofTables_tablesOf`: tables with the same sprites, and tables for given sprites.
- `ofTables_loses_open_bits`.
-/

namespace Arcade

/-! ## One sprite -/

namespace Sprite

/-- What two bytes of each table say of a sprite. -/
structure IsDescribedBy (s : Sprite) (code color y x flags area : UInt8) : Prop where
  code : s.code.toNat = code.toNat + 256 * (isHigh 6 flags).toNat
  color : s.color.toNat = color.toNat % 64
  y : s.y = y
  x : s.x.toNat = x.toNat + 256 * (isHigh 0 area).toNat
  enabled : s.enabled = !isHigh 1 area
  flipX : s.flipX = isHigh 0 flags
  flipY : s.flipY = isHigh 1 flags
  wide : s.wide = isHigh 3 flags
  tall : s.tall = isHigh 5 flags
  duplicate : s.duplicate = isHigh 7 flags

/-- **A decoded sprite is what its bytes say.** -/
theorem decode_isDescribedBy (code color y x flags area : UInt8) :
    (decode code color y x flags area).IsDescribedBy code color y x flags area where
  code := by
    show (code.toUInt16 ||| ((flags &&& 0x40).toUInt16 <<< 2)).toNat = _
    have hshape : (flags &&& 0x40).toUInt16.toNat = (isHigh 6 flags).toNat * 2 ^ 6 :=
      toNat_and_mask 6 rfl flags
    have hsmall : code.toNat < 2 ^ 8 := code.toNat_lt
    rw [UInt16.toNat_or, UInt16.toNat_shiftLeft, hshape, UInt8.toNat_toUInt16]
    -- the ninth bit of the code stands above the others
    cases isHigh 6 flags with
    | false => exact Nat.or_zero _
    | true =>
      show code.toNat ||| 2 ^ 8 * 1 = _
      rw [Nat.or_comm, ← Nat.two_pow_add_eq_or_of_lt hsmall, Nat.add_comm]
      rfl
  color := by
    show (color &&& 0x3F).toNat = _
    rw [UInt8.toNat_and]
    exact Nat.and_two_pow_sub_one_eq_mod color.toNat 6
  y := rfl
  x := by
    show (x.toUInt16 + 0x100 * (area &&& 0x01).toUInt16).toNat = _
    have hplace : (area &&& 0x01).toUInt16.toNat = (isHigh 0 area).toNat * 2 ^ 0 :=
      toNat_and_mask 0 rfl area
    have hsmall : x.toNat < 2 ^ 8 := x.toNat_lt
    have hbit : (isHigh 0 area).toNat ≤ 1 := Bool.toNat_le _
    rw [UInt16.toNat_add, UInt16.toNat_mul, hplace, UInt8.toNat_toUInt16]
    show (x.toNat + 256 * ((isHigh 0 area).toNat * 1) % 65536) % 65536 = _
    omega
  enabled := decide_mask_eq_zero 1 rfl area
  flipX := decide_mask_ne_zero 0 rfl flags
  flipY := decide_mask_ne_zero 1 rfl flags
  wide := decide_mask_ne_zero 3 rfl flags
  tall := decide_mask_ne_zero 5 rfl flags
  duplicate := decide_mask_ne_zero 7 rfl flags

/-- A sprite is known by what bytes say of it. -/
theorem IsDescribedBy.unique {s s' : Sprite} {code color y x flags area : UInt8}
    (h : s.IsDescribedBy code color y x flags area) (h' : s'.IsDescribedBy code color y x flags area) :
    s = s' := by
  have hcode := UInt16.toNat_inj.mp (h.code.trans h'.code.symm)
  have hcolor := UInt8.toNat_inj.mp (h.color.trans h'.color.symm)
  have hx := UInt16.toNat_inj.mp (h.x.trans h'.x.symm)
  obtain ⟨-, -, hy, -, henabled, hflipX, hflipY, hwide, htall, hduplicate⟩ := h
  obtain ⟨-, -, hy', -, henabled', hflipX', hflipY', hwide', htall', hduplicate'⟩ := h'
  cases s
  cases s'
  simp_all only

end Sprite

/-- The three tables. -/
inductive SpriteTable
  | shapes
  | places
  | attributes
  deriving DecidableEq

/-- Whether no sprite depends on a bit of the byte at an index of a table. -/
def SpriteTable.ignores (k : SpriteTable) (index line : Nat) : Bool :=
  match k with
  | .shapes => index % 2 = 1 && 6 ≤ line
  | .places => false
  | .attributes => if index % 2 = 0 then line = 2 || line = 4 else 2 ≤ line

namespace Sprite

/-- The sprite that two bytes of each table describe. -/
def ofBytes (bytes : SpriteTable → Nat → UInt8) : Sprite :=
  decode (bytes .shapes 0) (bytes .shapes 1) (bytes .places 0) (bytes .places 1) (bytes .attributes 0)
    (bytes .attributes 1)

variable {bytes bytes' : SpriteTable → Nat → UInt8}

theorem ofBytes_isDescribedBy (bytes : SpriteTable → Nat → UInt8) :
    (ofBytes bytes).IsDescribedBy (bytes .shapes 0) (bytes .shapes 1) (bytes .places 0) (bytes .places 1)
      (bytes .attributes 0) (bytes .attributes 1) := decode_isDescribedBy _ _ _ _ _ _

/-- A low part and one bit above it are known by their sum. -/
theorem low_and_bit {a b : UInt8} {p q : Bool}
    (h : a.toNat + 256 * p.toNat = b.toNat + 256 * q.toNat) : a = b ∧ p = q := by
  have ha : a.toNat < 256 := a.toNat_lt
  have hb : b.toNat < 256 := b.toNat_lt
  rw [← UInt8.toNat_inj]
  cases p <;> cases q <;> simp at h ⊢ <;> omega

/-- **Bytes give the same sprite exactly if they agree on every bit that is not left open.** -/
theorem ofBytes_eq_iff :
    ofBytes bytes = ofBytes bytes' ↔
      ∀ k half line, half < 2 → line < 8 → SpriteTable.ignores k half line = false →
        isHigh line (bytes k half) = isHigh line (bytes' k half) := by
  have hd := ofBytes_isDescribedBy bytes
  have hd' := ofBytes_isDescribedBy bytes'
  constructor
  · intro h
    rw [h] at hd
    obtain ⟨hcode, hninth⟩ := low_and_bit (hd.code.symm.trans hd'.code)
    obtain ⟨hx, hright⟩ := low_and_bit (hd.x.symm.trans hd'.x)
    have hcolor := (mod_eq_iff_isHigh 6 _ _).mp (hd.color.symm.trans hd'.color)
    have hy := hd.y.symm.trans hd'.y
    have henabled := Bool.not_inj (hd.enabled.symm.trans hd'.enabled)
    intro k half line hhalf hline hused
    match k, half with
    | .shapes, 0 => rw [hcode]
    | .shapes, 1 => exact hcolor line (by simpa [SpriteTable.ignores] using hused)
    | .places, 0 => rw [hy]
    | .places, 1 => rw [hx]
    | .attributes, 0 =>
      match line with
      | 0 => exact hd.flipX.symm.trans hd'.flipX
      | 1 => exact hd.flipY.symm.trans hd'.flipY
      | 3 => exact hd.wide.symm.trans hd'.wide
      | 5 => exact hd.tall.symm.trans hd'.tall
      | 6 => exact hninth
      | 7 => exact hd.duplicate.symm.trans hd'.duplicate
      | 2 | 4 => cases hused
      | _ + 8 => omega
    | .attributes, 1 =>
      match line with
      | 0 => exact hright
      | 1 => exact henabled
      | _ + 2 => simp [SpriteTable.ignores] at hused
    | _, _ + 2 => omega
  · intro h
    have hbyte (k : SpriteTable) (half : Nat) (hhalf : half < 2)
        (hused : ∀ line, k.ignores half line = false) : bytes' k half = bytes k half :=
      eq_iff_isHigh.mpr fun line hline => (h k half line hhalf hline (hused line)).symm
    have hcode := hbyte .shapes 0 (by decide) fun _ => rfl
    have hy := hbyte .places 0 (by decide) fun _ => rfl
    have hx := hbyte .places 1 (by decide) fun _ => rfl
    have hcolor := (mod_eq_iff_isHigh 6 (bytes' .shapes 1) (bytes .shapes 1)).mpr fun line hline =>
      (h .shapes 1 line (by decide) (by omega) (by simp [SpriteTable.ignores, hline])).symm
    have hflag (line : Nat) (hline : line < 8) (hused : SpriteTable.attributes.ignores 0 line = false) :=
      (h .attributes 0 line (by decide) hline hused).symm
    have harea (line : Nat) (hline : line < 2) :=
      (h .attributes 1 line (by decide) (by omega) (by simp [SpriteTable.ignores, hline])).symm
    -- so the sprite of the other bytes is what these bytes say
    refine hd.unique ⟨?_, hd'.color.trans hcolor, hd'.y.trans hy, ?_, ?_, ?_, ?_, ?_, ?_, ?_⟩
    · rw [hd'.code, hcode, hflag 6 (by decide) rfl]
    · rw [hd'.x, hx, harea 0 (by decide)]
    · rw [hd'.enabled, harea 1 (by decide)]
    · exact hd'.flipX.trans (hflag 0 (by decide) rfl)
    · exact hd'.flipY.trans (hflag 1 (by decide) rfl)
    · exact hd'.wide.trans (hflag 3 (by decide) rfl)
    · exact hd'.tall.trans (hflag 5 (by decide) rfl)
    · exact hd'.duplicate.trans (hflag 7 (by decide) rfl)

/-! ## The bytes of a sprite -/

/-- A byte of flags. -/
def flagByte (flipX flipY wide tall high duplicate : Bool) : UInt8 :=
  (if flipX then 0x01 else 0) + (if flipY then 0x02 else 0) + (if wide then 0x08 else 0) +
    (if tall then 0x20 else 0) + (if high then 0x40 else 0) + (if duplicate then 0x80 else 0)

/-- The byte of the last bit of a place, and of whether the sprite is shown. -/
def areaByte (right enabled : Bool) : UInt8 := (if right then 0x01 else 0) + (if enabled then 0 else 0x02)

/-- A byte that describes a sprite, with zeros in the bits that are left open. -/
def byte (s : Sprite) : SpriteTable → Nat → UInt8
  | .shapes, half => if half = 0 then UInt8.ofNat s.code.toNat else s.color
  | .places, half => if half = 0 then s.y else UInt8.ofNat s.x.toNat
  | .attributes, half =>
    if half = 0 then
      flagByte s.flipX s.flipY s.wide s.tall (256 ≤ s.code.toNat) s.duplicate
    else areaByte (256 ≤ s.x.toNat) s.enabled

theorem isHigh_flagByte (flipX flipY wide tall high duplicate : Bool) :
    isHigh 0 (flagByte flipX flipY wide tall high duplicate) = flipX ∧
      isHigh 1 (flagByte flipX flipY wide tall high duplicate) = flipY ∧
      isHigh 3 (flagByte flipX flipY wide tall high duplicate) = wide ∧
      isHigh 5 (flagByte flipX flipY wide tall high duplicate) = tall ∧
      isHigh 6 (flagByte flipX flipY wide tall high duplicate) = high ∧
      isHigh 7 (flagByte flipX flipY wide tall high duplicate) = duplicate := by
  revert flipX flipY wide tall high duplicate
  decide

theorem isHigh_areaByte (right enabled : Bool) :
    isHigh 0 (areaByte right enabled) = right ∧ isHigh 1 (areaByte right enabled) = !enabled := by
  revert right enabled
  decide

/-- A number of nine bits is its low byte and the bit above. -/
theorem eq_low_add_bit {n : Nat} (h : n < 512) :
    n = (UInt8.ofNat n).toNat + 256 * (decide (256 ≤ n)).toNat := by
  rw [UInt8.toNat_ofNat']
  by_cases hn : 256 ≤ n
  · rw [decide_eq_true hn, Bool.toNat_true]
    omega
  · rw [decide_eq_false hn, Bool.toNat_false]
    omega

/-- A sprite whose numbers fit into the fields of its bytes. -/
def Fits (s : Sprite) : Prop := s.code.toNat < 512 ∧ s.color.toNat < 64 ∧ s.x.toNat < 512

/-- The fields of a decoded sprite hold no more. -/
theorem IsDescribedBy.fits {s : Sprite} {code color y x flags area : UInt8}
    (h : s.IsDescribedBy code color y x flags area) : s.Fits := by
  have hcode : code.toNat < 256 := code.toNat_lt
  have hx : x.toNat < 256 := x.toNat_lt
  have hninth := Bool.toNat_le (isHigh 6 flags)
  have hright := Bool.toNat_le (isHigh 0 area)
  refine ⟨?_, ?_, ?_⟩
  · rw [h.code]
    omega
  · rw [h.color]
    exact Nat.mod_lt _ (by decide)
  · rw [h.x]
    omega

/-- **A sprite that fits is the one that its bytes describe.** -/
theorem ofBytes_byte {s : Sprite} (h : s.Fits) : ofBytes s.byte = s := by
  obtain ⟨hcode, hcolor, hx⟩ := h
  obtain ⟨hflipX, hflipY, hwide, htall, hninth, hduplicate⟩ :=
    isHigh_flagByte s.flipX s.flipY s.wide s.tall (256 ≤ s.code.toNat) s.duplicate
  obtain ⟨hright, hdisabled⟩ := isHigh_areaByte (256 ≤ s.x.toNat) s.enabled
  refine (ofBytes_isDescribedBy s.byte).unique
    ⟨?_, (Nat.mod_eq_of_lt hcolor).symm, rfl, ?_, ?_, hflipX.symm, hflipY.symm, hwide.symm, htall.symm,
      hduplicate.symm⟩
  · exact (eq_low_add_bit hcode).trans (congrArg (fun b => _ + 256 * Bool.toNat b) hninth.symm)
  · exact (eq_low_add_bit hx).trans (congrArg (fun b => _ + 256 * Bool.toNat b) hright.symm)
  · show s.enabled = !isHigh 1 (areaByte (256 ≤ s.x.toNat) s.enabled)
    rw [hdisabled, Bool.not_not]

/-! ## Whole tables -/

/-- The two bytes of each table that describe a sprite. Bytes that a table lacks count as zero. -/
def bytesAt (tables : SpriteTable → List UInt8) (n : Nat) (k : SpriteTable) (half : Nat) : UInt8 :=
  (tables k).getD (2 * n + half) 0

/-- The sprites that three tables describe. -/
def ofTables (tables : SpriteTable → List UInt8) : List Sprite :=
  decodeAll (tables .shapes) (tables .places) (tables .attributes)

theorem decodeFrom_eq_map (count : Nat) (tables : SpriteTable → List UInt8) :
    decodeFrom count (tables .shapes) (tables .places) (tables .attributes) =
      (List.range count).map fun n => ofBytes (bytesAt tables n) := by
  induction count generalizing tables with
  | zero => rfl
  | succ count ih =>
    -- the sprites after the first are those of the tables after the first two bytes
    rw [List.range_succ_eq_map, List.map_cons, List.map_map, decodeFrom]
    refine congrArg₂ List.cons rfl ((ih fun k => (tables k).drop 2).trans ?_)
    refine List.map_congr_left fun n _ => congrArg ofBytes ?_
    funext k half
    show ((tables k).drop 2).getD (2 * n + half) 0 = (tables k).getD (2 * (n + 1) + half) 0
    rw [List.getD_eq_getElem?_getD, List.getD_eq_getElem?_getD, List.getElem?_drop]
    congr 2
    omega

/-- **The sprites of tables, one by one.** -/
theorem ofTables_eq_map (tables : SpriteTable → List UInt8) :
    ofTables tables = (List.range count).map fun n => ofBytes (bytesAt tables n) :=
  decodeFrom_eq_map count tables

/-- Two triples of tables agree on every bit of the sprites' bytes that is not left open. -/
def Agree (tables tables' : SpriteTable → List UInt8) : Prop :=
  ∀ k i line, i < 0x80 → line < 8 → SpriteTable.ignores k i line = false →
    (tables k)[i]?.map (isHigh line) = (tables' k)[i]?.map (isHigh line)

/-- Which bits are left open depends on which of the two bytes of a sprite it is. -/
theorem ignores_mod_two (k : SpriteTable) (i line : Nat) : k.ignores (i % 2) line = k.ignores i line := by
  cases k <;> simp only [SpriteTable.ignores, Nat.mod_mod]

/-- A bit of a byte that a table has. -/
theorem map_isHigh_getElem? {table : List UInt8} {i : Nat} (h : i < table.length) (line : Nat) :
    table[i]?.map (isHigh line) = some (isHigh line (table.getD i 0)) := by
  rw [List.getD_eq_getElem?_getD, List.getElem?_eq_getElem h]
  rfl

/-- **Tables give the same sprites exactly if they agree.** -/
theorem ofTables_eq_iff {tables tables' : SpriteTable → List UInt8} (h : ∀ k, 0x80 ≤ (tables k).length)
    (h' : ∀ k, 0x80 ≤ (tables' k).length) : ofTables tables = ofTables tables' ↔ Agree tables tables' := by
  rw [ofTables_eq_map, ofTables_eq_map, List.map_inj_left]
  constructor
  · intro hsame k i line hi hline hused
    rw [map_isHigh_getElem? (Nat.lt_of_lt_of_le hi (h k)), map_isHigh_getElem? (Nat.lt_of_lt_of_le hi (h' k))]
    have hmem : i / 2 ∈ List.range count := List.mem_range.mpr (Nat.div_lt_of_lt_mul hi)
    have hbit := ofBytes_eq_iff.mp (hsame (i / 2) hmem) k (i % 2) line (Nat.mod_lt i (by decide)) hline
      ((ignores_mod_two k i line).trans hused)
    rw [bytesAt, bytesAt, Nat.div_add_mod] at hbit
    exact congrArg some hbit
  · intro hagree n hn
    have hn : n < 64 := List.mem_range.mp hn
    refine ofBytes_eq_iff.mpr fun k half line hhalf hline hused => ?_
    have hi : 2 * n + half < 0x80 := by omega
    have hparity : (2 * n + half) % 2 = half := by omega
    have hbit := hagree k (2 * n + half) line hi hline (by rw [← ignores_mod_two, hparity, hused])
    rw [map_isHigh_getElem? (Nat.lt_of_lt_of_le hi (h k)), map_isHigh_getElem? (Nat.lt_of_lt_of_le hi (h' k))]
      at hbit
    exact Option.some.inj hbit

/-- Tables for a list of sprites. -/
def tablesOf (sprites : List Sprite) (k : SpriteTable) : List UInt8 :=
  (List.range 0x80).map fun i => (sprites.getD (i / 2) blank).byte k (i % 2)

theorem bytesAt_tablesOf (sprites : List Sprite) {n : Nat} (hn : n < count) (k : SpriteTable) {half : Nat}
    (hhalf : half < 2) : bytesAt (tablesOf sprites) n k half = (sprites.getD n blank).byte k half := by
  have hn : n < 64 := hn
  have hi : 2 * n + half < 0x80 := by omega
  have hsprite : (2 * n + half) / 2 = n := by omega
  have hparity : (2 * n + half) % 2 = half := by omega
  rw [bytesAt, tablesOf, List.getD_eq_getElem?_getD, List.getElem?_map, List.getElem?_range hi, Option.map_some,
    Option.getD_some, hsprite, hparity]

/-- **The tables of sprites that fit give these sprites.** -/
theorem ofTables_tablesOf {sprites : List Sprite} (hlength : sprites.length = count)
    (hfit : ∀ s ∈ sprites, s.Fits) : ofTables (tablesOf sprites) = sprites := by
  rw [ofTables_eq_map]
  refine List.ext_getElem? fun n => ?_
  by_cases hn : n < count
  · have hn' : n < sprites.length := hlength ▸ hn
    have hsprite : sprites.getD n blank = sprites[n] := by
      rw [List.getD_eq_getElem?_getD, List.getElem?_eq_getElem hn', Option.getD_some]
    have hbytes : ofBytes (bytesAt (tablesOf sprites) n) = ofBytes (sprites[n]).byte := by
      unfold ofBytes
      simp only [bytesAt_tablesOf sprites hn, hsprite, Nat.one_lt_two, Nat.zero_lt_two]
    rw [List.getElem?_map, List.getElem?_range hn, Option.map_some, hbytes,
      ofBytes_byte (hfit _ (List.getElem_mem hn')), List.getElem?_eq_getElem hn']
  · have hn : count ≤ n := Nat.le_of_not_lt hn
    rw [List.getElem?_eq_none (by rwa [List.length_map, List.length_range]),
      List.getElem?_eq_none (by rwa [hlength])]

/-- **Decoding loses the bits that are left open, and nothing else.** Any tables give 64 sprites, whose numbers
fit into their fields. Tables that are long enough give the same sprites exactly if they agree on the first
`80` (hexadecimal) bytes, but for the bits that are left open. And any 64 sprites that fit come from some
tables. -/
theorem ofTables_loses_open_bits :
    (∀ tables, (ofTables tables).length = 64 ∧ ∀ s ∈ ofTables tables, s.Fits) ∧
      (∀ tables tables' : SpriteTable → List UInt8, (∀ k, 0x80 ≤ (tables k).length) →
        (∀ k, 0x80 ≤ (tables' k).length) → (ofTables tables = ofTables tables' ↔ Agree tables tables')) ∧
      ∀ sprites : List Sprite, sprites.length = 64 → (∀ s ∈ sprites, s.Fits) →
        ∃ tables, (∀ k, (tables k).length = 0x80) ∧ ofTables tables = sprites := by
  refine ⟨?_, ?_, ?_⟩
  · intro tables
    refine ⟨length_decodeAll _ _ _, ?_⟩
    intro s hs
    rw [ofTables_eq_map] at hs
    obtain ⟨n, -, rfl⟩ := List.mem_map.mp hs
    exact (ofBytes_isDescribedBy _).fits
  · intro tables tables' h h'
    exact ofTables_eq_iff h h'
  · intro sprites hlength hfit
    refine ⟨tablesOf sprites, ?_, ofTables_tablesOf hlength hfit⟩
    intro k
    rw [tablesOf, List.length_map, List.length_range]

/-- Zeros, and longer tables with ones in all the bits that are left open, give the same sprites; and there are
tables for sprites that have all their fields full. -/
theorem ofTables_loses_open_bits_full :
    let zeros : SpriteTable → List UInt8 := fun _ => List.replicate 0x80 0
    let marked : SpriteTable → List UInt8 := fun
      | .shapes => (List.replicate 0x41 [0x00, 0xC0]).flatten
      | .places => List.replicate 0x82 0x00
      | .attributes => (List.replicate 0x41 [0x14, 0xFC]).flatten
    let full : Sprite := ⟨false, 0x1FF, 0x3F, 0x1FF, 0xFF, true, true, true, true, true⟩
    let sprites : List Sprite := List.replicate 64 full
    (∀ k, 0x80 ≤ (zeros k).length) ∧ (∀ k, 0x80 ≤ (marked k).length) ∧ Agree zeros marked ∧
      sprites.length = 64 ∧ (∀ s ∈ sprites, s.Fits) ∧
      ∃ tables, (∀ k, (tables k).length = 0x80) ∧ ofTables tables = sprites := by
  intro zeros marked full sprites
  have hzeros : ∀ k, 0x80 ≤ (zeros k).length := fun k => by cases k <;> decide +kernel
  have hmarked : ∀ k, 0x80 ≤ (marked k).length := fun k => by cases k <;> decide +kernel
  have hlength : sprites.length = 64 := rfl
  have hfit : ∀ s ∈ sprites, s.Fits := by
    intro s hs
    rw [List.eq_of_mem_replicate hs]
    exact ⟨by decide, by decide, by decide⟩
  obtain ⟨-, hsame, hfilled⟩ := ofTables_loses_open_bits
  exact ⟨hzeros, hmarked, (hsame zeros marked hzeros hmarked).mp (by decide +kernel), hlength, hfit,
    hfilled sprites hlength hfit⟩

end Sprite

end Arcade
