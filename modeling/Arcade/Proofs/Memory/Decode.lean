import Arcade.Memory.SharedRam
import Arcade.Proofs.Memory.Windows

/-!
# `Arcade.Proofs.Memory.Decode` — what each processor can reach

Each memory is in the address maps of the two processors that share it, and in no other. The reset line
of sub and sound is in the address map of main alone, and each interrupt register in that of its own
processor. All this is read off the tables that the decoder follows.

## Contents
- `region_write_of_ne`, `region_write_congr`, `read_congr`: an access concerns one region.
- `decode_ram_isOwnedBy`, `region_ne_of_decode`: accesses lead to the memories that the processor shares,
  and to no other.
- `decode_secondaries`: only main reaches the reset line of sub and sound.
- `decode_interrupt`: a processor reaches no interrupt register but its own.
- `watchdogWindow`, `decode_watchdog_iff`: the addresses of the watchdogs.
- `decode_io_iff`: the addresses of the chips; `slotOf_val` and `registerOf_mod_two`: their lines.
- `decode_video_iff`: the addresses of the memories that main and sub share.
- `soundWindow`, `decode_sound_iff`: the addresses of sound memory.
- `decode_secondaries_iff`: the addresses of the reset line of sub and sound; `holdWindow`, `decode_hold_iff`: those
  that assert it.
- `decode_starfield_iff`: the addresses of the star field registers.
-/

namespace Arcade

namespace SharedRam

/-- A write leaves the other regions alone. -/
theorem region_write_of_ne (m : SharedRam) {c : Cell} {r : Region} (v : UInt8) (h : c.region ≠ r) :
    (m.write c v).region r = m.region r := by
  obtain ⟨q, i⟩ := c
  cases q <;> cases r <;> first | rfl | exact absurd rfl h

/-- What a region holds after a write depends on nothing outside it. -/
theorem region_write_congr {m m' : SharedRam} (c : Cell) {r : Region} (v : UInt8)
    (h : m.region r = m'.region r) : (m.write c v).region r = (m'.write c v).region r := by
  obtain ⟨q, i⟩ := c
  cases q <;> cases r <;> first | exact h | exact congrArg (fun t => Vector.set t i.val v i.isLt) h

/-- What a cell holds depends on nothing outside its region. -/
theorem read_congr {m m' : SharedRam} {c : Cell} (h : m.region c.region = m'.region c.region) :
    m.read c = m'.read c := by
  obtain ⟨r, i⟩ := c
  cases r <;> exact congrArg (fun t => Vector.get t i) h

end SharedRam

namespace AddressMap

variable {p : Processor} {a : UInt16} {access : Access}

/-! ## Who reaches what -/

/-- **An access leads only to memories that its processor shares.** -/
theorem decode_ram_isOwnedBy {c : Cell} (h : decode p a access = .ram c) : c.region.isOwnedBy p = true := by
  have hrows : ∀ w ∈ windows p access, ∀ n r offset, w.place n = .ram r offset → r.isOwnedBy p = true := by
    cases p <;> cases access <;>
      simp +contextual [windows, videoWindows, upperProgramWindows, Region.isOwnedBy, Region.owners]
  obtain ⟨w, hw, -, hplace⟩ := window_of_decode h (by simp)
  exact hrows w hw _ _ _ hplace

/-- An access leads to no cell of a memory that its processor does not share. -/
theorem region_ne_of_decode {c : Cell} {r : Region} (h : decode p a access = .ram c)
    (hp : r.isOwnedBy p = false) : c.region ≠ r := by
  intro hr
  have hown := decode_ram_isOwnedBy h
  rw [hr, hp] at hown
  cases hown

/-- **Only main reaches the reset line of sub and sound.** -/
theorem decode_secondaries {release : Bool} (h : decode p a access = .control (.secondaries release)) :
    p = .main := by
  have hrows : ∀ w ∈ windows p access, ∀ n, w.place n = .secondaries release → p = .main := by
    cases p <;> cases access <;> simp [windows, videoWindows, upperProgramWindows]
  obtain ⟨w, hw, -, hplace⟩ := window_of_decode h (by simp)
  exact hrows w hw _ hplace

/-- **A processor reaches no interrupt register but its own.** -/
theorem decode_interrupt {q : Processor} {on : Bool} (h : decode p a access = .control (.interrupt q on)) :
    q = p := by
  have hrows : ∀ w ∈ windows p access, ∀ n, w.place n = .interrupt q on → q = p := by
    cases p <;> cases access <;> simp +contextual [windows, videoWindows, upperProgramWindows, eq_comm]
  obtain ⟨w, hw, -, hplace⟩ := window_of_decode h (by simp)
  exact hrows w hw _ hplace

/-! ## Windows -/

/-- The addresses at which a processor services its watchdog. -/
def watchdogWindow (p : Processor) (access : Access) (a : UInt16) : Bool :=
  match p, access with
  | .main, .read => 0x7800 ≤ a && a ≤ 0x7FFF
  | .sound, _ => 0x2000 ≤ a && a ≤ 0x3FFF
  | _, _ => false

/-- The addresses at which main asserts the reset line of sub and sound. -/
def holdWindow (p : Processor) (a : UInt16) : Bool := p = .main && 0x8800 ≤ a && a ≤ 0x8FFF

/-- **Who reaches which watchdog, and where.** -/
theorem decode_watchdog_iff : decode p a access = .watchdog ↔ watchdogWindow p access a = true := by
  refine Iff.trans (decode_eq_iff (by simp)) ?_
  cases p <;> cases access <;>
    simp [windows, videoWindows, upperProgramWindows, Window.Contains, Target.place, watchdogWindow,
      UInt16.le_iff_toNat_le]

theorem releases_eq_false_iff : releases a = false ↔ a.toNat / 0x800 % 2 = 1 := by
  unfold releases lineHigh
  rw [Bool.not_eq_false', Nat.testBit_eq_decide_div_mod_eq, decide_eq_true_iff]

/-- **The chips are main's alone.** -/
theorem decode_io_iff {slot : Fin 4} {register : Fin 16} :
    decode p a access = .io slot register ↔
      p = .main ∧ 0x6800 ≤ a ∧ a ≤ 0x6FFF ∧ slotOf a = slot ∧ registerOf a = register := by
  refine Iff.trans (decode_eq_iff (by simp)) ?_
  cases p <;> cases access <;>
    simp [windows, videoWindows, upperProgramWindows, Window.Contains, Target.place, slotOf, registerOf,
      UInt16.le_iff_toNat_le, Fin.ext_iff, and_assoc]

/-- `A5` and `A4` select the slot. -/
theorem slotOf_val (a : UInt16) :
    (slotOf a).val = 2 * (lineHigh a 5).toNat + (lineHigh a 4).toNat := by
  unfold lineHigh
  rw [Nat.toNat_testBit, Nat.toNat_testBit]
  show a.toNat / 16 % 4 = 2 * (a.toNat / 32 % 2) + a.toNat / 16 % 2
  omega

/-- `A0` selects the write port. -/
theorem registerOf_mod_two (a : UInt16) : (registerOf a).val % 2 = (lineHigh a 0).toNat := by
  unfold lineHigh
  rw [Nat.toNat_testBit]
  show a.toNat % 16 % 2 = a.toNat / 1 % 2
  omega

/-- **Main and sub find each byte of the tile map and of work memory at one address.** -/
theorem decode_video_iff {r : Region} (hr : r ≠ .sound) {i : Fin r.size} :
    decode p a access = .ram ⟨r, i⟩ ↔ p ≠ .sound ∧ a.toNat = ramFirst p r + i.val := by
  refine Iff.trans (decode_eq_iff (by simp)) ?_
  have hi := i.isLt
  cases r with
  | tilemap | work =>
    cases p <;> cases access <;>
      simp [windows, videoWindows, upperProgramWindows, Window.Contains, Target.place, ramFirst,
        Region.size] at hi ⊢ <;>
      omega
  | sound => exact absurd rfl hr

/-- The addresses at which a processor reaches sound memory. -/
def soundWindow (p : Processor) (a : UInt16) : Bool :=
  match p with
  | .main => 0x6000 ≤ a && a ≤ 0x67FF
  | .sub => false
  | .sound => a ≤ 0x1FFF

/-- **Who reaches sound memory, where, and which cell of it.** -/
theorem decode_sound_iff {i : Fin Region.sound.size} :
    decode p a access = .ram ⟨.sound, i⟩ ↔ soundWindow p a = true ∧ a.toNat % 0x400 = i.val := by
  refine Iff.trans (decode_eq_iff (by simp)) ?_
  cases p <;> cases access <;>
    simp [windows, videoWindows, upperProgramWindows, Window.Contains, Target.place, soundWindow,
      UInt16.le_iff_toNat_le]

theorem decode_of_soundWindow (h : soundWindow p a = true) : decode p a access = .ram (soundCell a.toNat) :=
  decode_sound_iff.mpr ⟨h, rfl⟩

/-- **Where main asserts and releases the reset line of sub and sound.** -/
theorem decode_secondaries_iff {release : Bool} :
    decode p a .write = .control (.secondaries release) ↔
      p = .main ∧ 0x8000 ≤ a ∧ a ≤ 0x8FFF ∧ releases a = release := by
  refine Iff.trans (decode_eq_iff (by simp)) ?_
  cases p <;>
    simp [windows, videoWindows, upperProgramWindows, Window.Contains, Target.place, releases, lineHigh,
      UInt16.le_iff_toNat_le, and_assoc]

/-- **Where main asserts the reset line of sub and sound.** -/
theorem decode_hold_iff :
    decode p a .write = .control (.secondaries false) ↔ holdWindow p a = true := by
  have hfirst (n : UInt16) : n ≤ a ↔ n.toNat ≤ a.toNat := UInt16.le_iff_toNat_le
  have hlast : a ≤ (0x8FFF : UInt16) ↔ a.toNat ≤ 0x8FFF := UInt16.le_iff_toNat_le
  have hnumbers : (0x8000 : UInt16).toNat = 0x8000 ∧ (0x8800 : UInt16).toNat = 0x8800 := ⟨rfl, rfl⟩
  rw [decode_secondaries_iff, releases_eq_false_iff, holdWindow, Bool.and_eq_true, Bool.and_eq_true,
    decide_eq_true_iff, decide_eq_true_iff, decide_eq_true_iff, hfirst, hfirst, hlast]
  constructor
  · rintro ⟨hmain, hlow, hhigh, hline⟩
    exact ⟨⟨hmain, by omega⟩, hhigh⟩
  · rintro ⟨⟨hmain, hlow⟩, hhigh⟩
    exact ⟨hmain, by omega, hhigh, by omega⟩

/-- **The star field is main's alone.** -/
theorem decode_starfield_iff {r : Fin 4} :
    decode p a .write = .control (.starfield r) ↔
      p = .main ∧ 0xA000 ≤ a ∧ a ≤ 0xA7FF ∧ a.toNat % 4 = r.val := by
  refine Iff.trans (decode_eq_iff (by simp)) ?_
  cases p <;>
    simp [windows, videoWindows, upperProgramWindows, Window.Contains, Target.place, UInt16.le_iff_toNat_le,
      and_assoc]

end AddressMap

end Arcade
