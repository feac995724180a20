import Arcade.Checksum
import Mathlib.Data.List.Basic
import Mathlib.Logic.Function.Basic

/-!
# `Arcade.Proofs.Checksum` — a change of one byte changes the checksum

A register of the checksum that takes in a bit can be read back: the polynomial has its top bit set, so the top
bit of the register shows whether the polynomial was added. No two registers become the same then when they take
in the same bytes, and no register becomes the same from two different bytes. So byte strings that differ in one
place leave different registers, whatever stands before and after it.

## Contents
- `DifferAt`: two lists differ in one place; `exists_split`, `of_split`.
- `Checksum.shift_injective`, `absorb_left_injective`, `absorb_right_injective`: nothing is lost on the way.
- `Checksum.ofBytes_ne_of_differAt`.
-/

namespace Arcade

/-! ## Lists that differ in one place -/

/-- Two lists are as long as each other and have different things at one index only. -/
structure DifferAt {α : Type} (i : Nat) (xs ys : List α) : Prop where
  length_eq : xs.length = ys.length
  ne_iff : ∀ n, xs[n]? ≠ ys[n]? ↔ n = i

namespace DifferAt

variable {α : Type} {xs ys : List α} {i : Nat}

theorem lt_length (h : DifferAt i xs ys) : i < xs.length := by
  apply Nat.lt_of_not_le
  intro hle
  apply (h.ne_iff i).mpr rfl
  rw [List.getElem?_eq_none hle, List.getElem?_eq_none (h.length_eq ▸ hle)]

theorem getElem?_eq (h : DifferAt i xs ys) {n : Nat} (hn : n ≠ i) : xs[n]? = ys[n]? := by
  by_contra hne
  exact hn ((h.ne_iff n).mp hne)

/-- Lists that differ in one place are the same before it and after it. -/
theorem exists_split (h : DifferAt i xs ys) :
    ∃ front x y back, xs = front ++ x :: back ∧ ys = front ++ y :: back ∧ x ≠ y := by
  have hi := h.lt_length
  have hi' : i < ys.length := h.length_eq ▸ hi
  have hfront : ys.take i = xs.take i := by
    apply List.ext_getElem?
    intro n
    rw [List.getElem?_take, List.getElem?_take]
    split
    · next hlt => exact (h.getElem?_eq (Nat.ne_of_lt hlt)).symm
    · rfl
  have hback : ys.drop (i + 1) = xs.drop (i + 1) := by
    apply List.ext_getElem?
    intro n
    rw [List.getElem?_drop, List.getElem?_drop]
    exact (h.getElem?_eq (by omega)).symm
  refine ⟨xs.take i, xs[i], ys[i], xs.drop (i + 1), ?_, ?_, ?_⟩
  · rw [← List.drop_eq_getElem_cons hi, List.take_append_drop]
  · rw [← hfront, ← hback, ← List.drop_eq_getElem_cons hi', List.take_append_drop]
  · intro heq
    apply (h.ne_iff i).mpr rfl
    rw [List.getElem?_eq_getElem hi, List.getElem?_eq_getElem hi', heq]

/-- Lists with different things after the same front and before the same back differ there. -/
theorem of_split (front back : List α) {x y : α} (h : x ≠ y) :
    DifferAt front.length (front ++ x :: back) (front ++ y :: back) where
  length_eq := by simp
  ne_iff n := by
    rcases Nat.lt_trichotomy n front.length with hn | rfl | hn
    · rw [List.getElem?_append_left hn, List.getElem?_append_left hn]
      simp [Nat.ne_of_lt hn]
    · simp [h]
    · obtain ⟨m, rfl⟩ := Nat.exists_eq_add_of_lt hn
      simp [List.getElem?_append_right, Nat.add_assoc]

end DifferAt

namespace Checksum

/-! ## The register -/

/-- The top bit of the polynomial is set, and that of a register moved down is not. -/
theorem shiftRight_ne_xor (r s : UInt32) : r >>> 1 ≠ s >>> 1 ^^^ polynomial := by
  intro h
  have hbit := congrArg (fun v : UInt32 => v.toBitVec.getLsbD 31) h
  simp [UInt32.toBitVec_shiftRight, polynomial] at hbit

/-- A register is known by its lowest bit and the rest of it. -/
theorem eq_of_halves {r s : UInt32} (hrest : r >>> 1 = s >>> 1) (hlow : r &&& 1 = 1 ↔ s &&& 1 = 1) : r = s := by
  have hhalf := congrArg UInt32.toNat hrest
  have hbit : r.toNat % 2 = 1 ↔ s.toNat % 2 = 1 := by
    simpa [← UInt32.toNat_inj, UInt32.toNat_and, Nat.and_one_is_mod] using hlow
  simp only [UInt32.toNat_shiftRight, Nat.shiftRight_eq_div_pow] at hhalf
  apply UInt32.toNat_inj.mp
  have hone : (1 : UInt32).toNat % 32 = 1 := rfl
  rw [hone] at hhalf
  omega

/-- **No two registers become the same** when a bit is divided out. -/
theorem shift_injective : Function.Injective shift := by
  intro r s h
  unfold shift at h
  by_cases hr : r &&& 1 = 1
  · by_cases hs : s &&& 1 = 1
    · rw [if_pos hr, if_pos hs] at h
      exact eq_of_halves ((UInt32.xor_left_inj _).mp h) (iff_of_true hr hs)
    · rw [if_pos hr, if_neg hs] at h
      exact absurd h.symm (shiftRight_ne_xor s r)
  · by_cases hs : s &&& 1 = 1
    · rw [if_neg hr, if_pos hs] at h
      exact absurd h (shiftRight_ne_xor r s)
    · rw [if_neg hr, if_neg hs] at h
      exact eq_of_halves h (iff_of_false hr hs)

theorem shifts_injective (n : Nat) : Function.Injective (shifts n) := by
  induction n with
  | zero => exact Function.injective_id
  | succ n ih => exact ih.comp shift_injective

/-- No two registers become the same when they take in the same byte. -/
theorem absorb_left_injective (b : UInt8) : Function.Injective (absorb · b) := by
  intro r s h
  exact (UInt32.xor_left_inj _).mp (shifts_injective 8 h)

/-- A register becomes something else with every byte that it takes in. -/
theorem absorb_right_injective (r : UInt32) : Function.Injective (absorb r) := by
  intro a b h
  exact UInt8.toUInt32_inj.mp ((UInt32.xor_right_inj _).mp (shifts_injective 8 h))

theorem foldl_absorb_injective (bytes : List UInt8) : Function.Injective (bytes.foldl absorb ·) := by
  induction bytes with
  | nil => exact Function.injective_id
  | cons b bytes ih => exact ih.comp (absorb_left_injective b)

/-! ## The checksum -/

/-- **A change of one byte changes the checksum**, whatever stands before and after it. -/
theorem ofBytes_ne_of_differAt {bytes bytes' : List UInt8} {i : Nat} (h : DifferAt i bytes bytes') :
    ofBytes bytes ≠ ofBytes bytes' := by
  obtain ⟨front, a, b, back, rfl, rfl, hne⟩ := h.exists_split
  intro heq
  have hregister := UInt32.not_inj.mp heq
  rw [List.foldl_append, List.foldl_append] at hregister
  exact hne (absorb_right_injective _ (foldl_absorb_injective back hregister))

end Checksum

end Arcade
