import Arcade.Json.Token
import Arcade.Proofs.Json.Record

/-!
# `Arcade.Proofs.Json.Numbers` — numbers as they may be written

A number does not say where it ends: it is read as it is written if what comes then cannot belong to it, as is so
of everything that may follow a value. However it is written, an integer is asked for in one way only: without
sign, fraction and exponent.

## Contents
- `Delimits`: what may follow a value.
- `Digits`, `ExponentForm`, `NumberForm`: numbers as they may be written.
- `numeral_text`: a number is read as it is written.
- `NumberForm.natural?`, `asBelow?_value?`: what it is read as where an integer is asked for.
- `NumberForm.ofNat`: a natural number with the fewest digits.
-/

namespace Arcade

namespace Json

/-! ## What follows a value -/

/-- What comes after a value: nothing, a blank, or what stands between values and after them. -/
def Delimits (rest : List Char) : Prop := ∀ c ∈ rest.head?, isBlank c = true ∨ c = ',' ∨ c = ']' ∨ c = '}'

/-- None of these belongs to a number. -/
theorem Delimits.ends_number {c : Char} {rest : List Char} (h : Delimits (c :: rest)) :
    c.isDigit = false ∧ c ≠ '.' ∧ c ≠ 'e' ∧ c ≠ 'E' := by
  have hc := h c rfl
  unfold isBlank at hc
  simp only [Bool.or_eq_true, decide_eq_true_eq] at hc
  rcases hc with (((rfl | rfl) | rfl) | rfl) | rfl | rfl | rfl <;> decide

/-- A text does not begin with a digit. -/
def NoDigit (rest : List Char) : Prop := ∀ c ∈ rest.head?, c.isDigit = false

theorem noDigit_cons {c : Char} (h : c.isDigit = false) (rest : List Char) : NoDigit (c :: rest) := by
  rintro d ⟨⟩
  exact h

theorem Delimits.noDigit {rest : List Char} (h : Delimits rest) : NoDigit rest := by
  cases rest with
  | nil => exact nofun
  | cons c rest => exact noDigit_cons h.ends_number.1 rest

theorem digit_ne {d c : Char} (hd : d.isDigit = true) (hc : c.isDigit = false) : d ≠ c := by
  rintro rfl
  exact Bool.false_ne_true (hc.symm.trans hd)

theorem isBlank_digit {d : Char} (hd : d.isDigit = true) : isBlank d = false := by
  simp [isBlank, digit_ne hd]

/-! ## Numbers as they are written -/

/-- One or more decimal digits. -/
structure Digits where
  first : Char
  more : List Char
  all_digits : ∀ d ∈ first :: more, d.isDigit = true

/-- The digits as they stand. -/
def Digits.text (ds : Digits) : List Char := ds.first :: ds.more

theorem Digits.isDigit_first (ds : Digits) : ds.first.isDigit = true := ds.all_digits _ List.mem_cons_self

/-- The digits after a sign, if there is one. -/
def Digits.signedText (ds : Digits) : Option Bool → List Char
  | none => ds.text
  | some false => '+' :: ds.text
  | some true => '-' :: ds.text

/-- The exponent of a number as it may be written. -/
structure ExponentForm where
  /-- Whether the mark of the exponent is a capital. -/
  capital : Bool
  /-- Whether the sign, if there is one, is a minus. -/
  minus : Option Bool
  digits : Digits

/-- The exponent as it stands. -/
def ExponentForm.text (e : ExponentForm) : List Char :=
  (if e.capital then 'E' else 'e') :: e.digits.signedText e.minus

/-- A number as it may be written. -/
structure NumberForm where
  negative : Bool
  whole : Digits
  /-- A zero in front stands alone. -/
  zero_alone : whole.first = '0' → whole.more = []
  fraction : Option Digits
  exponent : Option ExponentForm

namespace NumberForm

/-- The exponent as it stands, if there is one. -/
def exponentText (n : NumberForm) : List Char :=
  match n.exponent with
  | none => []
  | some e => e.text

/-- What stands after the whole part of a number. -/
def tail (n : NumberForm) : List Char :=
  match n.fraction with
  | none => n.exponentText
  | some ds => '.' :: (ds.text ++ n.exponentText)

/-- The number as it stands. -/
def text (n : NumberForm) : List Char :=
  if n.negative then '-' :: (n.whole.text ++ n.tail) else n.whole.text ++ n.tail

/-- What a number is read as. -/
def numeral (n : NumberForm) : Numeral :=
  { negative := n.negative
    whole := n.whole.text
    fraction := n.fraction.map Digits.text
    exponent := n.exponent.map fun e => (e.minus == some true, e.digits.text) }

end NumberForm

/-! ## Reading numbers -/

/-- The digits are read up to what comes after them. -/
theorem digits_append {ds rest : List Char} (hne : ds ≠ []) (hds : ∀ d ∈ ds, d.isDigit = true)
    (hrest : NoDigit rest) : digits (ds ++ rest) = .ok (ds, rest) := by
  have htake : rest.takeWhile Char.isDigit = [] ∧ rest.dropWhile Char.isDigit = rest := by
    cases rest with
    | nil => exact ⟨rfl, rfl⟩
    | cons c rest =>
      have hend := Bool.eq_false_iff.mp (hrest c rfl)
      exact ⟨List.takeWhile_cons_of_neg hend, List.dropWhile_cons_of_neg hend⟩
  have hsplit : (ds ++ rest).takeWhile Char.isDigit = ds ∧ (ds ++ rest).dropWhile Char.isDigit = rest := by
    rw [List.takeWhile_append_of_pos hds, List.dropWhile_append_of_pos hds, htake.1, htake.2, List.append_nil]
    exact ⟨rfl, rfl⟩
  cases ds with
  | nil => exact absurd rfl hne
  | cons d ds =>
    rw [List.cons_append] at hsplit ⊢
    unfold digits
    dsimp only
    rw [if_pos (hds d List.mem_cons_self), hsplit.1, hsplit.2]

theorem Digits.digits_text (ds : Digits) {rest : List Char} (hrest : NoDigit rest) :
    digits (ds.text ++ rest) = .ok (ds.text, rest) :=
  digits_append (List.cons_ne_nil _ _) ds.all_digits hrest

/-- The digits before the point are all there are. -/
theorem Digits.wholePart_text {ds : Digits} (h : ds.first = '0' → ds.more = []) {rest : List Char}
    (hrest : NoDigit rest) : wholePart (ds.text ++ rest) = .ok (ds.text, rest) := by
  have hdigits := ds.digits_text hrest
  obtain ⟨first, more, hall⟩ := ds
  by_cases hzero : first = '0'
  · obtain rfl : more = [] := h hzero
    subst hzero
    cases rest with
    | nil => exact hdigits
    | cons c rest =>
      show (if c.isDigit then _ else _) = _
      rw [hrest c rfl]
      rfl
  · unfold wholePart
    split
    · next heq => exact absurd (List.cons.inj heq).1 hzero
    · exact hdigits

/-- The sign and the digits of an exponent. -/
theorem Digits.signedDigits_text (ds : Digits) (minus : Option Bool) {rest : List Char} (hrest : NoDigit rest) :
    signedDigits (ds.signedText minus ++ rest) = .ok ((minus == some true, ds.text), rest) := by
  have hdigits := ds.digits_text hrest
  rcases minus with _ | minus | minus
  · unfold signedDigits
    split
    · next heq => exact absurd (List.cons.inj heq).1 (digit_ne ds.isDigit_first rfl)
    · next heq => exact absurd (List.cons.inj heq).1 (digit_ne ds.isDigit_first rfl)
    · show (digits (ds.text ++ rest)).map _ = _
      rw [hdigits]
      rfl
  · show (digits (ds.text ++ rest)).map _ = _
    rw [hdigits]
    rfl
  · show (digits (ds.text ++ rest)).map _ = _
    rw [hdigits]
    rfl

theorem NumberForm.exponentPart_text (n : NumberForm) {rest : List Char} (hrest : Delimits rest) :
    exponentPart (n.exponentText ++ rest) = .ok (n.numeral.exponent, rest) := by
  unfold NumberForm.exponentText NumberForm.numeral
  cases n.exponent with
  | none =>
    unfold exponentPart
    split
    · next heq =>
      have hend := hrest
      rw [← List.nil_append rest, heq] at hend
      exact absurd rfl hend.ends_number.2.2.1
    · next heq =>
      have hend := hrest
      rw [← List.nil_append rest, heq] at hend
      exact absurd rfl hend.ends_number.2.2.2
    · rfl
  | some e =>
    have hsigned := e.digits.signedDigits_text e.minus hrest.noDigit
    dsimp only
    unfold ExponentForm.text
    cases e.capital with
    | false =>
      show (signedDigits (e.digits.signedText e.minus ++ rest)).map _ = _
      rw [hsigned]
      rfl
    | true =>
      show (signedDigits (e.digits.signedText e.minus ++ rest)).map _ = _
      rw [hsigned]
      rfl

/-- Before the exponent there is no point, and no digit. -/
theorem NumberForm.exponentText_cons (n : NumberForm) {rest : List Char} (hrest : Delimits rest) :
    ∀ c ∈ (n.exponentText ++ rest).head?, c.isDigit = false ∧ c ≠ '.' := by
  unfold NumberForm.exponentText
  cases n.exponent with
  | none =>
    cases rest with
    | nil => exact nofun
    | cons c rest =>
      rintro d ⟨⟩
      exact ⟨hrest.ends_number.1, hrest.ends_number.2.1⟩
  | some e =>
    unfold ExponentForm.text
    rintro d ⟨⟩
    cases e.capital <;> decide

theorem NumberForm.fractionPart_text (n : NumberForm) {rest : List Char} (hrest : Delimits rest) :
    fractionPart (n.tail ++ rest) = .ok (n.numeral.fraction, n.exponentText ++ rest) := by
  have hexponent := n.exponentText_cons hrest
  unfold NumberForm.tail NumberForm.numeral
  cases n.fraction with
  | none =>
    unfold fractionPart
    split
    · next heq =>
      dsimp only at heq
      rw [heq] at hexponent
      exact absurd rfl (hexponent '.' rfl).2
    · rfl
  | some ds =>
    show (digits ((ds.text ++ n.exponentText) ++ rest)).map _ = _
    rw [List.append_assoc, ds.digits_text fun c hc => (hexponent c hc).1]
    rfl

/-- **A number is read as it is written**, up to what comes after it. -/
theorem numeral_text (n : NumberForm) {rest : List Char} (hrest : Delimits rest) :
    numeral (n.text ++ rest) = .ok (n.numeral, rest) := by
  have htail : NoDigit (n.tail ++ rest) := by
    have hexponent := n.exponentText_cons hrest
    unfold NumberForm.tail
    cases n.fraction with
    | none => exact fun c hc => (hexponent c hc).1
    | some ds => exact noDigit_cons rfl _
  have hunsigned : unsignedNumeral n.negative (n.whole.text ++ (n.tail ++ rest)) = .ok (n.numeral, rest) := by
    unfold unsignedNumeral
    rw [Digits.wholePart_text n.zero_alone htail]
    show (fractionPart (n.tail ++ rest) >>= _) = _
    rw [n.fractionPart_text hrest]
    show (exponentPart (n.exponentText ++ rest) >>= _) = _
    rw [n.exponentPart_text hrest]
    rfl
  unfold NumberForm.text
  cases hnegative : n.negative with
  | true =>
    rw [hnegative] at hunsigned
    rw [if_pos rfl, List.cons_append, List.append_assoc]
    exact hunsigned
  | false =>
    rw [hnegative] at hunsigned
    rw [if_neg Bool.false_ne_true, List.append_assoc]
    unfold numeral
    split
    · next heq => exact absurd (List.cons.inj heq).1 (digit_ne n.whole.isDigit_first rfl)
    · exact hunsigned

/-! ## Integers -/

/-- The integer that a number is, if it is written as one and not negative. -/
def NumberForm.natural? (n : NumberForm) : Option Nat :=
  if n.negative = false ∧ n.fraction.isNone ∧ n.exponent.isNone then some (Nat.ofDigitChars 10 n.whole.text 0)
  else none

/-- The value of a number is a natural number of at most 64 bits if it is written as one. -/
theorem value?_eq_nat (n : NumberForm) (k : Nat) :
    n.numeral.value? = some (.nat k) ↔ n.natural? = some k ∧ k < UInt64.size := by
  have hmagnitude : ofDigits n.whole.text = Nat.ofDigitChars 10 n.whole.text 0 := by
    rw [Nat.ofDigitChars_eq_foldl]
    rfl
  have hfraction : n.numeral.fraction.isNone = n.fraction.isNone := Option.isNone_map
  have hexponent : n.numeral.exponent.isNone = n.exponent.isNone := Option.isNone_map
  have hnegative : n.numeral.negative = n.negative := rfl
  have hwhole : n.numeral.whole = n.whole.text := rfl
  unfold Numeral.value? NumberForm.natural?
  dsimp only
  rw [hfraction, hexponent, hnegative, hwhole, hmagnitude]
  split
  next hsmall =>
    rw [if_pos ⟨hsmall.2.2.1, hsmall.1, hsmall.2.1⟩]
    simp only [nat, Option.some.injEq, integer.injEq, Int.natCast_inj]
    exact ⟨fun h => ⟨h, h ▸ hsmall.2.2.2⟩, And.left⟩
  next hlarge =>
    -- whatever else it is, it is not the value of a number that is written so
    have hnot : ¬ ((if n.negative = false ∧ n.fraction.isNone = true ∧ n.exponent.isNone = true then
        some (Nat.ofDigitChars 10 n.whole.text 0) else none) = some k ∧ k < UInt64.size) := by
      rintro ⟨hk, hsize⟩
      split at hk
      · next hplain =>
        cases hk
        exact hlarge ⟨hplain.2.1, hplain.2.2, hplain.1, hsize⟩
      · cases hk
    refine ⟨fun h => absurd h ?_, fun h => absurd h hnot⟩
    split
    · next hnegative =>
      simp only [nat, Option.some.injEq, integer.injEq]
      omega
    · split <;> simp [nat]

/-- **A number is read as an integer below a bound if it is one**, where the bound has at most 64 bits. -/
theorem asBelow?_value? (n : NumberForm) {bound : Nat} (hbound : bound ≤ UInt64.size) :
    (n.numeral.value?.bind fun v => v.asBelow? bound) = n.natural?.filter (· < bound) := by
  ext k
  rw [Option.bind_eq_some_iff, Option.filter_eq_some_iff, decide_eq_true_eq]
  constructor
  · rintro ⟨v, hvalue, hbelow⟩
    obtain ⟨hk, rfl⟩ := asBelow?_eq_some.mp hbelow
    exact ⟨((value?_eq_nat n k).mp hvalue).1, hk⟩
  · rintro ⟨hnatural, hk⟩
    have hvalue := (value?_eq_nat n k).mpr ⟨hnatural, Nat.lt_of_lt_of_le hk hbound⟩
    exact ⟨_, hvalue, asBelow?_nat hk⟩

/-! ## Numbers as they are printed -/

theorem isDigit_toDigits (n : Nat) : ∀ d ∈ Nat.toDigits 10 n, d.isDigit = true :=
  fun _ hd => Nat.isDigit_of_mem_toDigits (by decide) (by decide) hd

/-- A number is written with a zero in front only if it is zero, and then there is no other digit. -/
theorem toDigits_cases (n : Nat) :
    Nat.toDigits 10 n = ['0'] ∨ ∃ d ds, Nat.toDigits 10 n = d :: ds ∧ d ≠ '0' := by
  induction n using Nat.strongRecOn with
  | ind n ih =>
    by_cases hsmall : n < 10
    · rw [Nat.toDigits_of_lt_base hsmall]
      have hall : ∀ n < 10, [n.digitChar] = ['0'] ∨ n.digitChar ≠ '0' := by decide
      rcases hall n hsmall with hzero | hother
      · exact .inl hzero
      · exact .inr ⟨_, _, rfl, hother⟩
    · have hlarge : 10 ≤ n := Nat.le_of_not_lt hsmall
      rw [Nat.toDigits_of_base_le (by decide) hlarge]
      right
      rcases ih (n / 10) (by omega) with hzero | ⟨d, ds, hds, hd⟩
      · have hvalue := Nat.ofDigitChars_ten_toDigits (n := n / 10)
        rw [hzero] at hvalue
        have hnone : (0 : Nat) = n / 10 := hvalue
        omega
      · rw [hds]
        exact ⟨d, _, rfl, hd⟩

/-- The digits of a natural number. -/
def Digits.ofNat (n : Nat) : Digits where
  first := (Nat.toDigits 10 n).head Nat.toDigits_ne_nil
  more := (Nat.toDigits 10 n).tail
  all_digits := by
    rw [List.cons_head_tail]
    exact isDigit_toDigits n

theorem Digits.text_ofNat (n : Nat) : (Digits.ofNat n).text = Nat.toDigits 10 n := List.cons_head_tail _

/-- A natural number as it is written. -/
def NumberForm.ofNat (n : Nat) : NumberForm where
  negative := false
  whole := .ofNat n
  zero_alone := by
    intro hfirst
    have htext := Digits.text_ofNat n
    rcases toDigits_cases n with hzero | ⟨d, ds, hds, hd⟩
    · exact (List.cons.inj (htext.trans hzero)).2
    · exact absurd ((List.cons.inj (htext.trans hds)).1.symm.trans hfirst) hd
  fraction := none
  exponent := none

theorem NumberForm.text_ofNat (n : Nat) : (NumberForm.ofNat n).text = Nat.toDigits 10 n :=
  (List.append_nil _).trans (Digits.text_ofNat n)

theorem NumberForm.natural?_ofNat (n : Nat) : (NumberForm.ofNat n).natural? = some n := by
  show some (Nat.ofDigitChars 10 (Digits.ofNat n).text 0) = some n
  rw [Digits.text_ofNat, Nat.ofDigitChars_ten_toDigits]

end Json

end Arcade
