import Arcade.Memory.AddressMap
import Mathlib.Data.List.Pairwise
import Mathlib.Algebra.Group.Nat.Defs

/-!
# `Arcade.Proofs.Memory.Windows` — the address maps as tables

The address map of a processor as a list of windows. A window is a stretch of addresses, with the lines
that are not decoded there and the place to which an address of it leads. Places are plain numbers,
computed from the address without regard to the size of what they point into.

The decoder follows the tables (`place_decode`). It has the bounds in its types and wraps around where an
address could lead too far; the tables do neither, and still agree with it, so nothing is ever wrapped.

## Contents
- `Lines`, `Lines.SameBut`, `Lines.sameBut_iff`: addresses that differ on some lines only.
- `Place`, `Target.place`, `Target.place_inj`: a target in plain numbers.
- `Window`, `windows`, `windows_sorted`: the tables.
- `place`, `place_decode`: the decoder follows them; `window_of_decode`, `decode_eq_iff`: so a target is reached from
  the addresses of its windows.
- `ignoredLines`, `decode_eq_of_sameBut`: lines that are not decoded do not matter.
- `sameBut_of_ram`, `sameBut_of_rom`: for memories and programs all other lines do.
-/

namespace Arcade

namespace AddressMap

/-! ## Address lines -/

/-- Neighbouring address lines: those from `low` on and below `high`. -/
structure Lines where
  low : Nat
  high : Nat
  deriving DecidableEq

namespace Lines

/-- No line. -/
def none : Lines := ⟨0, 0⟩

/-- Two addresses are the same but for some lines: they agree on every other line. -/
def SameBut (l : Lines) (a a' : UInt16) : Prop :=
  ∀ line, line < l.low ∨ l.high ≤ line → lineHigh a' line = lineHigh a line

/-- What the other lines say: the value of those below, and of those above. -/
def rest (l : Lines) (n : Nat) : Nat × Nat := (n % 2 ^ l.low, n / 2 ^ l.high)

variable {l : Lines} {a a' : UInt16}

/-- Addresses are the same but for some lines if the others say the same. -/
theorem sameBut_iff : l.SameBut a a' ↔ l.rest a'.toNat = l.rest a.toNat := by
  constructor
  · intro h
    refine Prod.ext (Nat.eq_of_testBit_eq ?_) (Nat.eq_of_testBit_eq ?_)
    · intro line
      simp only [rest, Nat.testBit_mod_two_pow]
      by_cases hlow : line < l.low
      · have hline : a'.toNat.testBit line = a.toNat.testBit line := h line (.inl hlow)
        rw [hline]
      · rw [decide_eq_false hlow, Bool.false_and, Bool.false_and]
    · intro line
      simp only [rest, Nat.testBit_div_two_pow]
      exact h _ (.inr (Nat.le_add_left _ _))
  · intro h line hline
    show a'.toNat.testBit line = a.toNat.testBit line
    rcases hline with hlow | hhigh
    · have hbit := congrArg (·.1.testBit line) h
      simpa [rest, Nat.testBit_mod_two_pow, hlow] using hbit
    · have hbit := congrArg (·.2.testBit (line - l.high)) h
      simpa [rest, Nat.testBit_div_two_pow, Nat.sub_add_cancel hhigh] using hbit

instance : Decidable (l.SameBut a a') := decidable_of_iff _ sameBut_iff.symm

theorem sameBut_none : none.SameBut a a' ↔ a' = a := by
  constructor
  · intro h
    refine UInt16.toNat_inj.mp ?_
    simpa [none, rest, Nat.mod_one] using sameBut_iff.mp h
  · rintro rfl line -
    rfl

end Lines

/-! ## Places -/

/-- Where an address leads, in plain numbers. -/
inductive Place
  | ram (region : Region) (offset : Nat)
  | rom (offset : Nat)
  | io (slot register : Nat)
  | watchdog
  | interrupt (p : Processor) (enable : Bool)
  | secondaries (release : Bool)
  | ioChips (release : Bool)
  | starfield (register : Nat)
  | unmapped
  deriving DecidableEq

end AddressMap

/-- A cell is known by its region and its offset. -/
theorem Cell.eq_of_val {c d : Cell} (hregion : c.region = d.region) (hoffset : c.offset.val = d.offset.val) :
    c = d := by
  obtain ⟨r, i⟩ := c
  obtain ⟨q, j⟩ := d
  obtain rfl : r = q := hregion
  obtain rfl : i = j := Fin.ext hoffset
  rfl

open AddressMap in
/-- A target without the bounds on its numbers. -/
def Target.place {p : Processor} : Target p → Place
  | .ram cell => .ram cell.region cell.offset.val
  | .rom offset => .rom offset.val
  | .io slot register => .io slot.val register.val
  | .watchdog => .watchdog
  | .control (.interrupt q enable) => .interrupt q enable
  | .control (.secondaries release) => .secondaries release
  | .control (.ioChips release) => .ioChips release
  | .control (.starfield register) => .starfield register.val
  | .unmapped => .unmapped

/-- A target is known by its place. -/
theorem Target.place_inj {p : Processor} {t u : Target p} : t.place = u.place → t = u := by
  fun_cases Target.place t <;> fun_cases Target.place u <;> simp [Fin.ext_iff]
  exact Cell.eq_of_val

namespace AddressMap

/-! ## Windows -/

/-- A stretch of addresses, the lines that are not decoded there, and the place of each address. -/
structure Window where
  first : Nat
  last : Nat
  ignored : Lines
  place : Nat → Place

/-- An address is in a window. -/
def Window.Contains (w : Window) (a : UInt16) : Prop := w.first ≤ a.toNat ∧ a.toNat ≤ w.last

instance (w : Window) (a : UInt16) : Decidable (w.Contains a) :=
  inferInstanceAs (Decidable (w.first ≤ a.toNat ∧ a.toNat ≤ w.last))

/-- The memories that main and sub share. -/
def videoWindows : List Window :=
  [⟨0x0000, 0x07FF, .none, fun n => .ram .tilemap n⟩,
    ⟨0x0800, 0x1FFF, .none, fun n => .ram .work (n - 0x0800)⟩]

/-- The second and the third chip of a program of three. -/
def upperProgramWindows : List Window :=
  [⟨0xC000, 0xDFFF, .none, fun n => .rom (0x2000 + (n - 0xC000))⟩,
    ⟨0xE000, 0xFFFF, .none, fun n => .rom (0x4000 + (n - 0xE000))⟩]

/-- The windows of a processor in the order of their addresses. What is in none of them leads nowhere. -/
def windows : Processor → Access → List Window
  | .main, access =>
    videoWindows ++
    [⟨0x6000, 0x67FF, ⟨10, 11⟩, fun n => .ram .sound (n % 0x400)⟩,
      ⟨0x6800, 0x6FFF, ⟨6, 11⟩, fun n => .io (n / 0x10 % 4) (n % 0x10)⟩] ++
    (match access with
      | .read =>
        [⟨0x7800, 0x7FFF, ⟨0, 11⟩, fun _ => .watchdog⟩,
          ⟨0x8000, 0xBFFF, ⟨13, 14⟩, fun n => .rom (n % 0x2000)⟩]
      | .write =>
        [⟨0x7000, 0x7FFF, ⟨0, 11⟩, fun n => .interrupt .main !(n.testBit 11)⟩,
          ⟨0x8000, 0x8FFF, ⟨0, 11⟩, fun n => .secondaries !(n.testBit 11)⟩,
          ⟨0x9000, 0x9FFF, ⟨0, 11⟩, fun n => .ioChips !(n.testBit 11)⟩,
          ⟨0xA000, 0xA7FF, ⟨2, 11⟩, fun n => .starfield (n % 4)⟩,
          ⟨0xA800, 0xBFFF, .none, fun n => .rom (n - 0xA000)⟩]) ++
    upperProgramWindows
  | .sub, access =>
    videoWindows ++
    (match access with
      | .read => []
      | .write => [⟨0x6000, 0x6FFF, ⟨1, 12⟩, fun n => .interrupt .sub (n.testBit 0)⟩]) ++
    [⟨0x8000, 0xBFFF, ⟨13, 14⟩, fun n => .rom (n % 0x2000)⟩] ++
    upperProgramWindows
  | .sound, access =>
    [⟨0x0000, 0x1FFF, ⟨10, 13⟩, fun n => .ram .sound (n % 0x400)⟩,
      ⟨0x2000, 0x3FFF, ⟨0, 13⟩, fun _ => .watchdog⟩] ++
    (match access with
      | .read => []
      | .write => [⟨0x4000, 0x7FFF, ⟨0, 13⟩, fun n => .interrupt .sound !(n.testBit 13)⟩]) ++
    [⟨0xC000, 0xFFFF, ⟨13, 14⟩, fun n => .rom (n % 0x2000)⟩]

/-- The windows follow one another. -/
theorem windows_sorted (p : Processor) (access : Access) :
    (windows p access).Pairwise fun v w => v.last < w.first := by
  cases p <;> cases access <;> decide

variable {p : Processor} {access : Access} {v w : Window} {a a' : UInt16}

/-- An address is in one window at most. -/
theorem eq_of_contains (hv : v ∈ windows p access) (hw : w ∈ windows p access) (ha : v.Contains a)
    (ha' : w.Contains a) : v = w := by
  have hapart : (windows p access).Pairwise fun v w => ¬ (v.Contains a ∧ w.Contains a) := by
    refine (windows_sorted p access).imp ?_
    rintro v w hlast ⟨⟨-, hv⟩, ⟨hw, -⟩⟩
    omega
  have hsymm : Std.Symm fun v w : Window => ¬ (v.Contains a ∧ w.Contains a) :=
    ⟨fun _ _ h hc => h hc.symm⟩
  by_contra hne
  exact hapart.forall hv hw hne ⟨ha, ha'⟩

/-- The window of an address. -/
def window? (p : Processor) (access : Access) (a : UInt16) : Option Window :=
  (windows p access).find? fun w => w.Contains a

theorem window?_eq_some_iff : window? p access a = some w ↔ w ∈ windows p access ∧ w.Contains a := by
  constructor
  · intro h
    exact ⟨List.mem_of_find?_eq_some h, by simpa using List.find?_some h⟩
  · rintro ⟨hw, ha⟩
    cases h : window? p access a with
    | none => exact absurd ha (by simpa using List.find?_eq_none.mp h w hw)
    | some v =>
      have hv : v.Contains a := by simpa using List.find?_some h
      rw [eq_of_contains (List.mem_of_find?_eq_some h) hw hv ha]

theorem window?_eq_none_iff : window? p access a = none ↔ ∀ w ∈ windows p access, ¬ w.Contains a := by
  simp [window?]

/-- The place of an address in the tables. -/
def place (p : Processor) (access : Access) (a : UInt16) : Place :=
  match window? p access a with
  | some w => w.place a.toNat
  | none => .unmapped

/-- The lines that are not decoded where an access goes. -/
def ignoredLines (p : Processor) (access : Access) (a : UInt16) : Lines :=
  match window? p access a with
  | some w => w.ignored
  | none => .none

/-- What leads anywhere does so by a window. -/
theorem exists_window (h : place p access a ≠ .unmapped) :
    ∃ w ∈ windows p access,
      w.Contains a ∧ w.place a.toNat = place p access a ∧ w.ignored = ignoredLines p access a := by
  unfold place at h ⊢
  unfold ignoredLines
  cases hw : window? p access a with
  | none => rw [hw] at h; exact absurd rfl h
  | some w =>
    obtain ⟨hmem, ha⟩ := window?_eq_some_iff.mp hw
    exact ⟨w, hmem, ha, rfl, rfl⟩

/-! ## The decoder follows the tables

Each statement here is one for every window, so the tables are gone through row by row; what is left of a
row is arithmetic. -/

/-- The decoder follows each window. -/
theorem place_decode_of_mem :
    ∀ w ∈ windows p access, w.Contains a → (decode p a access).place = w.place a.toNat := by
  have hbound := a.toNat_lt
  unfold Window.Contains
  cases p <;> cases access <;>
    simp only [windows, videoWindows, upperProgramWindows, List.cons_append, List.nil_append,
      List.forall_mem_cons, List.not_mem_nil, false_implies, implies_true, and_true] <;>
    and_intros <;> rintro ⟨hfirst, hlast⟩ <;>
    dsimp only [decode, decodeMain, decodeSub, decodeSound] <;>
    -- the bounds of the window decide every test of the decoder
    simp (disch := omega) only [↓if_pos, ↓if_neg]
  all_goals
    simp only [Target.place, tilemapCell, workCell, soundCell, threeChipOffset, oneChipOffset, slotOf,
      registerOf, starfieldRegisterOf, mainEnables, subEnables, soundEnables, releases, lineHigh,
      Place.ram.injEq, Place.rom.injEq, true_and] <;>
      omega

/-- Outside the windows nothing is reached. -/
theorem place_decode_of_not_mem :
    (∀ w ∈ windows p access, ¬ w.Contains a) → (decode p a access).place = .unmapped := by
  have hbound := a.toNat_lt
  unfold Window.Contains
  cases p <;> cases access <;>
    simp only [windows, videoWindows, upperProgramWindows, List.cons_append, List.nil_append,
      List.forall_mem_cons, List.not_mem_nil, false_implies, implies_true, and_true] <;>
    intro h <;> dsimp only [decode, decodeMain, decodeSub, decodeSound] <;> (repeat' split) <;>
    first
      | rfl
      | omega

/-- **The decoder follows the tables.** -/
theorem place_decode (p : Processor) (access : Access) (a : UInt16) :
    (decode p a access).place = place p access a := by
  unfold place
  cases h : window? p access a with
  | none => exact place_decode_of_not_mem (window?_eq_none_iff.mp h)
  | some w =>
    obtain ⟨hw, ha⟩ := window?_eq_some_iff.mp h
    exact place_decode_of_mem w hw ha

theorem place_of_decode {t : Target p} (h : decode p a access = t) : place p access a = t.place := by
  rw [← place_decode, h]

/-- What an access leads to is the place of a window. -/
theorem window_of_decode {t : Target p} (h : decode p a access = t) (ht : t ≠ .unmapped) :
    ∃ w ∈ windows p access, w.Contains a ∧ w.place a.toNat = t.place := by
  have hplace : place p access a = t.place := place_of_decode h
  have hmapped : place p access a ≠ .unmapped := by
    rw [hplace]
    exact fun hunmapped => ht (Target.place_inj hunmapped)
  obtain ⟨w, hw, ha, hwindow, -⟩ := exists_window hmapped
  exact ⟨w, hw, ha, hwindow.trans hplace⟩

/-- **An access leads to a target exactly if it does so by the tables.** -/
theorem decode_eq_iff {t : Target p} (ht : t ≠ .unmapped) :
    decode p a access = t ↔ ∃ w ∈ windows p access, w.Contains a ∧ w.place a.toNat = t.place := by
  constructor
  · intro h
    exact window_of_decode h ht
  · rintro ⟨w, hw, ha, hplace⟩
    exact Target.place_inj ((place_decode_of_mem w hw ha).trans hplace)

/-! ## Lines that are not decoded -/

/-- The lines that are not decoded in a window do not lead out of it. -/
theorem contains_of_sameBut :
    ∀ w ∈ windows p access, w.Contains a → w.ignored.SameBut a a' → w.Contains a' := by
  unfold Window.Contains
  cases p <;> cases access <;>
    simp only [windows, videoWindows, upperProgramWindows, List.cons_append, List.nil_append,
      List.forall_mem_cons, List.not_mem_nil, false_implies, implies_true, and_true, Lines.sameBut_iff,
      Lines.rest, Lines.none, Prod.mk.injEq] <;>
    and_intros <;> rintro ⟨hfirst, hlast⟩ ⟨-, hhigh⟩ <;>
    omega

/-- The lines that are not decoded in a window do not matter there. -/
theorem place_of_sameBut :
    ∀ w ∈ windows p access, w.Contains a → w.ignored.SameBut a a' → w.place a'.toNat = w.place a.toNat := by
  unfold Window.Contains
  cases p <;> cases access <;>
    simp only [windows, videoWindows, upperProgramWindows, List.cons_append, List.nil_append,
      List.forall_mem_cons, List.not_mem_nil, false_implies, implies_true, and_true, true_and,
      Lines.sameBut_iff, Lines.rest, Lines.none, Prod.mk.injEq, Nat.testBit_eq_decide_div_mod_eq,
      ← decide_not, Place.ram.injEq, Place.rom.injEq, Place.io.injEq, Place.interrupt.injEq,
      Place.secondaries.injEq, Place.ioChips.injEq, Place.starfield.injEq, decide_eq_decide] <;>
    and_intros <;> rintro ⟨hfirst, hlast⟩ ⟨hlow, hhigh⟩ <;>
    omega

/-- **Addresses that differ only on lines that are not decoded lead to the same target.** -/
theorem decode_eq_of_sameBut (h : (ignoredLines p access a).SameBut a a') :
    decode p a' access = decode p a access := by
  unfold ignoredLines at h
  cases hwindow : window? p access a with
  | none =>
    rw [hwindow] at h
    rw [Lines.sameBut_none.mp h]
  | some w =>
    rw [hwindow] at h
    obtain ⟨hw, ha⟩ := window?_eq_some_iff.mp hwindow
    refine Target.place_inj ?_
    rw [place_decode_of_mem w hw ha, place_decode_of_mem w hw (contains_of_sameBut w hw ha h),
      place_of_sameBut w hw ha h]

/-! ## Lines that are decoded -/

/-- The lines that are not decoded where a processor reaches a memory. -/
def ramLines : Processor → Region → Lines
  | .main, .sound => ⟨10, 11⟩
  | .sound, .sound => ⟨10, 13⟩
  | _, _ => .none

/-- The first address at which a processor reaches a memory. -/
def ramFirst : Processor → Region → Nat
  | _, .tilemap => 0
  | _, .work => 0x0800
  | .main, .sound => 0x6000
  | _, .sound => 0

/-- The lines that are not decoded where a processor reads a byte of its program. -/
def romLines : Processor → Nat → Lines
  | .sound, _ => ⟨13, 14⟩
  | _, offset => if offset < 0x2000 then ⟨13, 14⟩ else .none

/-- The address from which on a processor finds the bytes of its program in order. -/
def romFirst : Processor → Nat
  | .sound => 0xC000
  | _ => 0xA000

/-- The lines that are decoded in a window of a memory tell which byte is meant. -/
theorem rest_of_ram_window {r : Region} {offset : Nat} :
    ∀ w ∈ windows p access, w.Contains a → w.place a.toNat = .ram r offset →
      w.ignored = ramLines p r ∧
        (ramLines p r).rest a.toNat = (ramLines p r).rest (ramFirst p r + offset) := by
  unfold Window.Contains
  cases p <;> cases access <;>
    simp only [windows, videoWindows, upperProgramWindows, List.cons_append, List.nil_append,
      List.forall_mem_cons, List.not_mem_nil, false_implies, implies_true, and_true, reduceCtorEq,
      Place.ram.injEq] <;>
    and_intros <;> rintro ⟨hfirst, hlast⟩ ⟨rfl, hoffset⟩ <;>
    simp only [ramLines, ramFirst, Lines.rest, Lines.none, Prod.mk.injEq, true_and] <;>
    omega

/-- The lines that are decoded in a window of a program tell which byte is meant. -/
theorem rest_of_rom_window {offset : Nat} :
    ∀ w ∈ windows p .read, w.Contains a → w.place a.toNat = .rom offset →
      w.ignored = romLines p offset ∧
        (romLines p offset).rest a.toNat = (romLines p offset).rest (romFirst p + offset) := by
  unfold Window.Contains
  cases p <;>
    simp only [windows, videoWindows, upperProgramWindows, List.cons_append, List.nil_append,
      List.forall_mem_cons, List.not_mem_nil, false_implies, implies_true, and_true, true_and, reduceCtorEq,
      Place.rom.injEq] <;>
    and_intros <;> rintro ⟨hfirst, hlast⟩ hoffset <;>
    simp (disch := omega) only [romLines, romFirst, Lines.rest, Lines.none, Prod.mk.injEq, true_and,
      ↓if_pos, ↓if_neg] <;>
    omega

/-- The lines that are decoded tell which byte of a memory is meant. -/
theorem rest_of_ram {r : Region} {offset : Nat} (h : place p access a = .ram r offset) :
    ignoredLines p access a = ramLines p r ∧
      (ramLines p r).rest a.toNat = (ramLines p r).rest (ramFirst p r + offset) := by
  have hmapped : place p access a ≠ .unmapped := by
    rw [h]
    exact nofun
  obtain ⟨w, hw, ha, hplace, hignored⟩ := exists_window hmapped
  rw [← hignored]
  exact rest_of_ram_window w hw ha (hplace.trans h)

/-- The lines that are decoded tell which byte of a program is meant. -/
theorem rest_of_rom {offset : Nat} (h : place p .read a = .rom offset) :
    ignoredLines p .read a = romLines p offset ∧
      (romLines p offset).rest a.toNat = (romLines p offset).rest (romFirst p + offset) := by
  have hmapped : place p .read a ≠ .unmapped := by
    rw [h]
    exact nofun
  obtain ⟨w, hw, ha, hplace, hignored⟩ := exists_window hmapped
  rw [← hignored]
  exact rest_of_rom_window w hw ha (hplace.trans h)

/-- **Addresses of a processor that reach the same byte of a memory** differ only on lines that are not
decoded. -/
theorem sameBut_of_ram {access' : Access} {c : Cell} (h : decode p a access = .ram c)
    (h' : decode p a' access' = .ram c) : (ignoredLines p access a).SameBut a a' := by
  obtain ⟨hignored, hrest⟩ := rest_of_ram (place_of_decode h)
  obtain ⟨-, hrest'⟩ := rest_of_ram (place_of_decode h')
  rw [hignored, Lines.sameBut_iff, hrest, hrest']

/-- **Addresses at which a processor reads the same byte of its program** differ only on lines that are not
decoded. -/
theorem sameBut_of_rom {i : Fin p.romSize} (h : decode p a .read = .rom i)
    (h' : decode p a' .read = .rom i) : (ignoredLines p .read a).SameBut a a' := by
  obtain ⟨hignored, hrest⟩ := rest_of_rom (place_of_decode h)
  obtain ⟨-, hrest'⟩ := rest_of_rom (place_of_decode h')
  rw [hignored, Lines.sameBut_iff, hrest, hrest']

end AddressMap

end Arcade
