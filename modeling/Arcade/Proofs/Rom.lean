import Arcade.Proofs.Checksum
import Arcade.Rom
import Mathlib.Data.List.ReduceOption

/-!
# `Arcade.Proofs.Rom` — the check of a program, chip by chip

The check of a program cuts the image into the pieces that its chips hold, one after the other, for as long as
there is any of the image. It is shown here to be a check of each chip by itself, at the place that the chip has
in the image. A byte is in one piece then, and a change of it changes what there is to say about the chip of that
piece, and about no other.

## Contents
- `Rom.piece`, `Rom.mismatch?`: the bytes that a chip holds, and what there is to say about it.
- `Rom.mismatched`, `Rom.reports`, `verify_eq_reports`, `verify_eq_mismatched`: the check of a program.
- `differAt_piece`, `checksum_piece_ne_iff`, `differAt_reports`: what a change of one byte comes to.
- `Rom.verify_detects_one_byte`.
-/

namespace Arcade

namespace Rom

/-! ## Pieces -/

/-- The bytes of an image that the chip at an index holds. -/
def piece (image : List UInt8) (i : Nat) : List UInt8 := (image.drop (i * chipSize)).take chipSize

/-- The number of pieces of an image, of which the last may be short. -/
def pieceCount (image : List UInt8) : Nat := (image.length + (chipSize - 1)) / chipSize

/-- What there is to say about the chip at an index, if its piece of an image has another checksum. -/
def mismatch? (image : List UInt8) (chip : RomChip) (i : Nat) : Option RomMismatch :=
  let actual := Checksum.ofBytes (piece image i)
  if actual = chip.checksum then none else some ⟨chip.name, chip.checksum, actual⟩

/-- The chips whose pieces of an image have another checksum, in the order of their addresses. -/
def mismatched (chips : List RomChip) (image : List UInt8) : List RomMismatch :=
  chips.zipIdx.filterMap fun c => mismatch? image c.1 c.2

/-- What there is to say about each chip that an image reaches, in the order of their addresses. -/
def reports (chips : List RomChip) (image : List UInt8) : List (Option RomMismatch) :=
  (chips.zipIdx.take (pieceCount image)).map fun c => mismatch? image c.1 c.2

theorem lt_pieceCount_iff {image : List UInt8} {n : Nat} : n < pieceCount image ↔ n * chipSize < image.length := by
  unfold pieceCount chipSize
  omega

theorem getElem?_piece (image : List UInt8) (n j : Nat) :
    (piece image n)[j]? = if j < chipSize then image[n * chipSize + j]? else none := by
  unfold piece
  rw [List.getElem?_take, List.getElem?_drop]

theorem getElem?_reports (chips : List RomChip) (image : List UInt8) (n : Nat) :
    (reports chips image)[n]? =
      if n < pieceCount image then chips[n]?.map fun chip => mismatch? image chip n else none := by
  unfold reports
  rw [List.getElem?_map, List.getElem?_take]
  split
  · rw [List.getElem?_zipIdx, Option.map_map, Nat.zero_add]
    rfl
  · rfl

/-! ## The check of a program -/

theorem check_piece (image : List UInt8) (chip : RomChip) (i : Nat) :
    check chip (piece image i) = (mismatch? image chip i).toList := by
  unfold check mismatch?
  dsimp only
  split <;> rfl

/-- An image is checked piece by piece, as long as there is any of it. -/
theorem verify_cons_of_pos (chip : RomChip) (chips : List RomChip) {image : List UInt8}
    (h : 0 < image.length) :
    verify (chip :: chips) image = check chip (image.take chipSize) ++ verify chips (image.drop chipSize) := by
  cases image with
  | nil => cases h
  | cons byte bytes => rfl

/-- From the chip at index `k` on, the check goes on where the image goes on. -/
theorem verify_drop (chips : List RomChip) (image : List UInt8) (k : Nat) :
    verify chips (image.drop (k * chipSize)) =
      (((chips.zipIdx k).take (pieceCount image - k)).map fun c => mismatch? image c.1 c.2).reduceOption := by
  induction chips generalizing k with
  | nil =>
    rw [List.zipIdx_nil, List.take_nil]
    rfl
  | cons chip chips ih =>
    by_cases hk : k < pieceCount image
    · have hmore : 0 < (image.drop (k * chipSize)).length := by
        have hreach := lt_pieceCount_iff.mp hk
        rw [List.length_drop]
        omega
      have hnext : (image.drop (k * chipSize)).drop chipSize = image.drop ((k + 1) * chipSize) := by
        rw [List.drop_drop, Nat.succ_mul]
      have hpiece : (image.drop (k * chipSize)).take chipSize = piece image k := rfl
      have hleft : pieceCount image - k = pieceCount image - (k + 1) + 1 := by omega
      rw [verify_cons_of_pos _ _ hmore, hpiece, check_piece, hnext, ih (k + 1), List.zipIdx_cons, hleft,
        List.take_succ_cons, List.map_cons]
      cases mismatch? image chip k with
      | none => rfl
      | some wrong => rfl
    · -- the check stops where the image does
      have hend : image.drop (k * chipSize) = [] := by
        apply List.drop_eq_nil_of_le
        exact Nat.le_of_not_lt fun hreach => hk (lt_pieceCount_iff.mpr hreach)
      rw [hend, verify_nil, Nat.sub_eq_zero_of_le (Nat.le_of_not_lt hk), List.take_zero]
      rfl

/-- **A program is checked chip by chip**, as far as it reaches. -/
theorem verify_eq_reports (chips : List RomChip) (image : List UInt8) :
    verify chips image = (reports chips image).reduceOption := by
  have hall := verify_drop chips image 0
  rw [Nat.zero_mul] at hall
  exact hall

/-- All chips are checked if the program fills them. -/
theorem verify_eq_mismatched {chips : List RomChip} {image : List UInt8}
    (h : image.length = chips.length * chipSize) : verify chips image = mismatched chips image := by
  have hcount : pieceCount image = chips.zipIdx.length := by
    rw [List.length_zipIdx]
    unfold pieceCount chipSize
    unfold chipSize at h
    omega
  rw [verify_eq_reports]
  unfold reports mismatched List.reduceOption
  rw [hcount, List.take_length, List.filterMap_map]
  rfl

/-! ## A change of one byte -/

section OneByte

variable {chips : List RomChip} {image image' : List UInt8} {i : Nat}

theorem pieceCount_congr (h : image.length = image'.length) : pieceCount image = pieceCount image' := by
  unfold pieceCount
  rw [h]

/-- The byte is in one piece, and at one place of it. -/
theorem differAt_piece (h : DifferAt i image image') :
    DifferAt (i % chipSize) (piece image (i / chipSize)) (piece image' (i / chipSize)) where
  length_eq := by
    unfold piece
    rw [List.length_take, List.length_take, List.length_drop, List.length_drop, h.length_eq]
  ne_iff j := by
    have hplace : i % chipSize < chipSize := Nat.mod_lt i (by decide)
    have hi : i / chipSize * chipSize + i % chipSize = i := Nat.div_add_mod' i chipSize
    rw [getElem?_piece, getElem?_piece]
    by_cases hj : j < chipSize
    · rw [if_pos hj, if_pos hj, h.ne_iff]
      omega
    · rw [if_neg hj, if_neg hj]
      exact iff_of_false (fun hne => hne rfl) (fun heq => hj (heq ▸ hplace))

/-- All other pieces are the same. -/
theorem piece_congr (h : DifferAt i image image') {n : Nat} (hn : n ≠ i / chipSize) :
    piece image n = piece image' n := by
  apply List.ext_getElem?
  intro j
  rw [getElem?_piece, getElem?_piece]
  split
  · next hj =>
    apply h.getElem?_eq
    rintro rfl
    apply hn
    rw [Nat.mul_comm, Nat.mul_add_div (by decide), Nat.div_eq_of_lt hj, Nat.add_zero]
  · rfl

/-- **A change of one byte changes the checksum of one piece.** -/
theorem checksum_piece_ne_iff (h : DifferAt i image image') (n : Nat) :
    Checksum.ofBytes (piece image n) ≠ Checksum.ofBytes (piece image' n) ↔ n = i / chipSize := by
  constructor
  · intro hne
    by_contra hn
    exact hne (congrArg Checksum.ofBytes (piece_congr h hn))
  · rintro rfl
    exact Checksum.ofBytes_ne_of_differAt (differAt_piece h)

/-- What there is to say about a chip tells its checksum. -/
theorem mismatch?_inj {chip : RomChip} {n : Nat} :
    mismatch? image chip n = mismatch? image' chip n ↔
      Checksum.ofBytes (piece image n) = Checksum.ofBytes (piece image' n) := by
  unfold mismatch?
  dsimp only
  split
  · next hlisted =>
    split
    · next hlisted' => exact iff_of_true rfl (hlisted.trans hlisted'.symm)
    · next hother => exact iff_of_false nofun fun heq => hother (heq ▸ hlisted)
  · next hother =>
    split
    · next hlisted' => exact iff_of_false nofun fun heq => hother (heq ▸ hlisted')
    · simp

/-- A byte of an image is in one of its pieces. -/
theorem piece_reached (h : DifferAt i image image') : i / chipSize < pieceCount image := by
  have hle := Nat.div_mul_le_self i chipSize
  exact lt_pieceCount_iff.mpr (Nat.lt_of_le_of_lt hle h.lt_length)

/-- **A change of one byte changes what there is to say about one chip**, if there is a chip for it. -/
theorem differAt_reports (h : DifferAt i image image') (hchip : i / chipSize < chips.length) :
    DifferAt (i / chipSize) (reports chips image) (reports chips image') where
  length_eq := by
    unfold reports
    rw [List.length_map, List.length_map, List.length_take, List.length_take, pieceCount_congr h.length_eq]
  ne_iff n := by
    rw [getElem?_reports, getElem?_reports, ← pieceCount_congr h.length_eq, ← checksum_piece_ne_iff h]
    by_cases hn : n < pieceCount image ∧ n < chips.length
    · rw [if_pos hn.1, if_pos hn.1, List.getElem?_eq_getElem hn.2, Option.map_some, Option.map_some, ne_eq,
        Option.some.injEq, mismatch?_inj]
    · -- there is nothing to say about a chip that is not checked, and the chip of the byte is checked
      refine iff_of_false (fun hne => hne ?_) (fun hne => hn ?_)
      · split
        · next hlt =>
          rw [List.getElem?_eq_none (Nat.le_of_not_lt fun hlt' => hn ⟨hlt, hlt'⟩)]
          rfl
        · rfl
      · rw [(checksum_piece_ne_iff h n).mp hne]
        exact ⟨piece_reached h, hchip⟩

/-- Without a chip for it, a change of one byte changes nothing. -/
theorem reports_congr (h : DifferAt i image image') (hbeyond : chips.length ≤ i / chipSize) :
    reports chips image = reports chips image' := by
  apply List.ext_getElem?
  intro n
  rw [getElem?_reports, getElem?_reports, pieceCount_congr h.length_eq]
  by_cases hn : n = i / chipSize
  · rw [List.getElem?_eq_none (hn ▸ hbeyond)]
    rfl
  · unfold mismatch?
    rw [piece_congr h hn]

end OneByte

/-- Reports that differ in one place come to something different. -/
theorem reduceOption_ne_of_differAt {α : Type} {xs ys : List (Option α)} {i : Nat} (h : DifferAt i xs ys) :
    xs.reduceOption ≠ ys.reduceOption := by
  obtain ⟨front, x, y, back, rfl, rfl, hne⟩ := h.exists_split
  intro heq
  rw [List.reduceOption_append, List.reduceOption_append] at heq
  have htail := List.append_cancel_left heq
  cases x with
  | none =>
    cases y with
    | none => exact hne rfl
    | some b => simp at htail
  | some a =>
    cases y with
    | none => simp at htail
    | some b => simp_all

/-- **No change of one byte escapes the check.** Take any chips and two images that differ in one byte. What the
check says is made up of what there is to say about each chip that the image reaches. The checksum of one piece
differs, that of the piece with the byte; so if there is a chip for the piece, the two checks differ in what they
say about this chip, and in nothing else, and where the chip had the right contents it is found to be wrong, with
the checksum that it has now. If the byte is beyond the chips, the two checks say the same. -/
theorem verify_detects_one_byte (chips : List RomChip) {image image' : List UInt8} {i : Nat}
    (h : DifferAt i image image') :
    let k := i / chipSize
    verify chips image = (reports chips image).reduceOption ∧
      verify chips image' = (reports chips image').reduceOption ∧
      (∀ n, Checksum.ofBytes (piece image n) ≠ Checksum.ofBytes (piece image' n) ↔ n = k) ∧
      (k < chips.length → DifferAt k (reports chips image) (reports chips image') ∧
        verify chips image ≠ verify chips image') ∧
      (∀ chip, chips[k]? = some chip → Checksum.ofBytes (piece image k) = chip.checksum →
        (reports chips image)[k]? = some none ∧
          (reports chips image')[k]? =
            some (some ⟨chip.name, chip.checksum, Checksum.ofBytes (piece image' k)⟩)) ∧
      (chips.length ≤ k → verify chips image = verify chips image') := by
  intro k
  have hchecksum := checksum_piece_ne_iff h
  refine ⟨verify_eq_reports _ _, verify_eq_reports _ _, hchecksum, ?_, ?_, ?_⟩
  · intro hchip
    have hreports := differAt_reports h hchip
    refine ⟨hreports, ?_⟩
    rw [verify_eq_reports, verify_eq_reports]
    exact reduceOption_ne_of_differAt hreports
  · intro chip hchip hright
    have hreach := piece_reached h
    have hwrong : Checksum.ofBytes (piece image' k) ≠ chip.checksum := by
      intro heq
      exact (hchecksum k).mpr rfl (hright.trans heq.symm)
    constructor
    · rw [getElem?_reports, if_pos hreach, hchip, Option.map_some]
      exact congrArg some (if_pos hright)
    · rw [getElem?_reports, ← pieceCount_congr h.length_eq, if_pos hreach, hchip, Option.map_some]
      exact congrArg some (if_neg hwrong)
  · intro hbeyond
    rw [verify_eq_reports, verify_eq_reports, reports_congr h hbeyond]

/-- The only byte of a short last piece is changed: its chip had the right contents, and has not any more. -/
theorem verify_detects_one_byte_last :
    let chips : List RomChip := [⟨"first", 0⟩, ⟨"second", 0xD202EF8D⟩]
    let filled : List UInt8 := List.replicate chipSize 0
    DifferAt chipSize (filled ++ [0]) (filled ++ [1]) ∧
      (reports chips (filled ++ [0]))[1]? = some none ∧
      (reports chips (filled ++ [1]))[1]? = some (some ⟨"second", 0xD202EF8D, 0xA505DF1B⟩) ∧
      DifferAt 1 (reports chips (filled ++ [0])) (reports chips (filled ++ [1])) ∧
      verify chips (filled ++ [0]) ≠ verify chips (filled ++ [1]) := by
  intro chips filled
  have hlength : filled.length = 1 * chipSize := by
    rw [List.length_replicate, Nat.one_mul]
  have hdiffer : DifferAt chipSize (filled ++ [0]) (filled ++ [1]) := by
    have hsplit := DifferAt.of_split filled [] (x := 0) (y := 1) (by decide)
    rwa [hlength, Nat.one_mul] at hsplit
  have hpiece (byte : UInt8) : piece (filled ++ [byte]) 1 = [byte] := by
    unfold piece
    rw [← hlength, List.drop_left]
    rfl
  have hright : Checksum.ofBytes (piece (filled ++ [0]) 1) = 0xD202EF8D := by
    rw [hpiece]
    decide
  have hnow : Checksum.ofBytes (piece (filled ++ [1]) 1) = 0xA505DF1B := by
    rw [hpiece]
    decide
  obtain ⟨-, -, -, hchanged, hfound, -⟩ := verify_detects_one_byte chips hdiffer
  obtain ⟨hbefore, hafter⟩ := hfound ⟨"second", 0xD202EF8D⟩ rfl hright
  obtain ⟨hreports, hverify⟩ := hchanged (by decide)
  have hindex : chipSize / chipSize = 1 := by decide
  rw [hindex] at hbefore hafter hreports
  rw [hnow] at hafter
  exact ⟨hdiffer, hbefore, hafter, hreports, hverify⟩

end Rom

end Arcade
