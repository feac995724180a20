import Mathlib.Data.Nat.Bitwise

/-!
# `Arcade.Proofs.Bits` — the bits of a byte

Inputs, outputs and video registers give each bit of a byte a meaning of its own. A byte is read here line
by line: `isHigh` tells whether a bit is one, and the masks by which the board picks bits out are put in
terms of it.

## Contents
- `isHigh`, and `eq_iff_isHigh`: a byte is known by its eight bits; `mod_eq_iff_isHigh`: its lower ones.
- `isHigh_and`, `isHigh_or`, `isHigh_not`, and shifts: the bits of a result.
- `toNat_and_mask`: what a mask of one bit leaves.
- `and_mask_eq_zero`, `decide_mask_ne_zero`, `decide_mask_eq_zero`: the test of a bit by such a mask.
-/

namespace Arcade

/-- Whether a byte has a line high. -/
def isHigh (line : Nat) (data : UInt8) : Bool := data.toNat.testBit line

/-- A byte has no lines above the eighth. -/
theorem isHigh_of_le {line : Nat} (h : 8 ≤ line) (data : UInt8) : isHigh line data = false :=
  Nat.testBit_lt_two_pow (Nat.lt_of_lt_of_le data.toNat_lt (Nat.pow_le_pow_right (by decide) h))

/-- **The lower part of a byte is known by its bits.** -/
theorem mod_eq_iff_isHigh (n : Nat) (a b : UInt8) :
    a.toNat % 2 ^ n = b.toNat % 2 ^ n ↔ ∀ line < n, isHigh line a = isHigh line b := by
  constructor
  · intro h line hline
    have hbit := congrArg (·.testBit line) h
    simpa [isHigh, Nat.testBit_mod_two_pow, hline] using hbit
  · intro h
    refine Nat.eq_of_testBit_eq fun line => ?_
    rw [Nat.testBit_mod_two_pow, Nat.testBit_mod_two_pow]
    by_cases hline : line < n
    · exact congrArg (decide (line < n) && ·) (h line hline)
    · rw [decide_eq_false hline, Bool.false_and, Bool.false_and]

/-- **A byte is known by its eight bits.** -/
theorem eq_iff_isHigh {a b : UInt8} : a = b ↔ ∀ line < 8, isHigh line a = isHigh line b := by
  rw [← mod_eq_iff_isHigh, Nat.mod_eq_of_lt a.toNat_lt, Nat.mod_eq_of_lt b.toNat_lt, UInt8.toNat_inj]

/-! ## Bits of results -/

section Results

variable (line : Nat) (a b : UInt8)

theorem isHigh_and : isHigh line (a &&& b) = (isHigh line a && isHigh line b) := by
  unfold isHigh
  rw [UInt8.toNat_and, Nat.testBit_and]

theorem isHigh_or : isHigh line (a ||| b) = (isHigh line a || isHigh line b) := by
  unfold isHigh
  rw [UInt8.toNat_or, Nat.testBit_or]

theorem isHigh_not : isHigh line (~~~a) = (decide (line < 8) && !isHigh line a) := by
  have hcomplement : (~~~a).toNat = 2 ^ 8 - (a.toNat + 1) := by
    rw [UInt8.toNat_not]
    show 256 - 1 - a.toNat = 256 - (a.toNat + 1)
    omega
  unfold isHigh
  rw [hcomplement, Nat.testBit_two_pow_sub_succ a.toNat_lt]

/-- The bits of a byte moved down. -/
theorem isHigh_shiftRight (h : b.toNat < 8) : isHigh line (a >>> b) = isHigh (b.toNat + line) a := by
  unfold isHigh
  rw [UInt8.toNat_shiftRight, Nat.mod_eq_of_lt h, Nat.testBit_shiftRight]

/-- The bits of a byte moved up. -/
theorem isHigh_shiftLeft (h : b.toNat < 8) :
    isHigh line (a <<< b) = (decide (line < 8) && (decide (b.toNat ≤ line) && isHigh (line - b.toNat) a)) := by
  unfold isHigh
  rw [UInt8.toNat_shiftLeft, Nat.mod_eq_of_lt h, Nat.testBit_mod_two_pow, Nat.testBit_shiftLeft]

/-- A one in a place of its own. -/
theorem isHigh_one_shiftLeft (h : b.toNat < 8) : isHigh line (1 <<< b) = decide (b.toNat = line) := by
  have hone : (1 <<< b : UInt8).toNat = 2 ^ b.toNat := by
    have hsmall : 2 ^ b.toNat < 2 ^ 8 := Nat.pow_lt_pow_right (by decide) h
    rw [UInt8.toNat_shiftLeft, Nat.mod_eq_of_lt h, UInt8.toNat_one, Nat.one_shiftLeft, Nat.mod_eq_of_lt hsmall]
  unfold isHigh
  rw [hone, Nat.testBit_two_pow]

/-- The lower half of a byte. -/
theorem isHigh_and_low : isHigh line (a &&& 0x0F) = (decide (line < 4) && isHigh line a) := by
  have hlow : isHigh line 0x0F = decide (line < 4) := Nat.testBit_two_pow_sub_one 4 line
  rw [isHigh_and, hlow, Bool.and_comm]

end Results

/-! ## Masks -/

/-- A mask of one bit leaves that bit. -/
theorem toNat_and_mask (line : Nat) {mask : UInt8} (hmask : mask.toNat = 2 ^ line) (data : UInt8) :
    (data &&& mask).toNat = (isHigh line data).toNat * 2 ^ line := by
  rw [UInt8.toNat_and, hmask]
  exact Nat.and_two_pow data.toNat line

theorem and_mask_eq_zero (line : Nat) {mask : UInt8} (hmask : mask.toNat = 2 ^ line) (data : UInt8) :
    data &&& mask = 0 ↔ isHigh line data = false := by
  rw [← UInt8.toNat_inj, toNat_and_mask line hmask]
  cases isHigh line data <;> simp

theorem decide_mask_ne_zero (line : Nat) {mask : UInt8} (hmask : mask.toNat = 2 ^ line) (data : UInt8) :
    decide (data &&& mask ≠ 0) = isHigh line data := by
  have hiff := and_mask_eq_zero line hmask data
  cases h : isHigh line data with
  | false => exact decide_eq_false (not_not_intro (hiff.mpr h))
  | true => exact decide_eq_true fun hzero => Bool.noConfusion (h.symm.trans (hiff.mp hzero))

theorem decide_mask_eq_zero (line : Nat) {mask : UInt8} (hmask : mask.toNat = 2 ^ line) (data : UInt8) :
    decide (data &&& mask = 0) = !isHigh line data := by
  rw [← decide_mask_ne_zero line hmask, decide_not, Bool.not_not]

end Arcade
