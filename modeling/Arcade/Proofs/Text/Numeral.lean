import Arcade.Text.Hex
import Arcade.Text.Numeral
import Mathlib.Data.List.Forall2
import Mathlib.Data.Nat.Digits.Defs
import Mathlib.Tactic.Ring

/-!
# `Arcade.Proofs.Text.Numeral` — which texts are bytes, and what is wrong with the others

The grammar of numerals is written down beside the reader: digits are figures and letters in either case, and what
they make up is a number in positional notation. A text is read as a number exactly if it is a numeral for it
within the limit. The reader stops where it first finds something wrong; so it finds the number too large exactly
if some front part of the text is a numeral for a number beyond the limit, whatever comes after that part.

## Contents
- `Numeral.IsDigit`, `AreDigits`, `Spells`, `Exceeds`: the grammar.
- `digit?_eq_some_iff`: the digits; `continued`: the number so far.
- `scan_eq_ok_iff`, `scan_eq_tooLarge_iff`: digits that follow a number.
- `read_eq_ok_iff`, `read_eq_empty_iff`, `read_eq_tooLarge_iff`, `read_eq_invalidDigit_iff`: whole texts.
- `areDigits_toDigits`, `AreDigits.leftpad`, `AreDigits.toUpper`: numerals as they are printed.
- `Byte.Splits`: the radix and the numeral of a text; `Byte.outcome`, `Byte.refusal`: what becomes of it.
- `Byte.ofText_follows_grammar`.
-/

namespace Arcade

namespace Numeral

/-! ## The grammar -/

/-- A character is the digit of a value: a figure, or a letter from ten on, in either case. -/
def IsDigit (radix d : Nat) (c : Char) : Prop := d < radix ∧ (c = d.digitChar ∨ c = d.digitChar.toUpper)

/-- Characters are digits that make up a number, the first of them with the most weight. -/
def AreDigits (radix : Nat) (cs : List Char) (n : Nat) : Prop :=
  ∃ ds, List.Forall₂ (IsDigit radix) ds cs ∧ Nat.ofDigits radix ds.reverse = n

/-- A text is a numeral of a number: one or more digits, after a plus sign or without one. -/
def Spells (radix : Nat) (text : List Char) (n : Nat) : Prop :=
  ∃ cs, cs ≠ [] ∧ (text = cs ∨ text = '+' :: cs) ∧ AreDigits radix cs n

/-- A text begins with a numeral of a number beyond the limit. -/
def Exceeds (radix limit : Nat) (text : List Char) : Prop :=
  ∃ front n, front <+: text ∧ Spells radix front n ∧ limit < n

/-! ## Digits -/

/-- The number that digits make up together with a number that stands in front of them. -/
def continued (radix value : Nat) (ds : List Nat) : Nat := ds.foldl (fun n d => n * radix + d) value

variable {radix limit value d n : Nat} {c : Char} {cs rest text : List Char}

/-- The digits of a smaller radix are those of sixteen with smaller values. -/
theorem digit?_eq_some_iff_lt (hradix : radix ≤ 16) :
    digit? radix c = some d ↔ digit? 16 c = some d ∧ d < radix := by
  have hbelow (v : Nat) : (if v < radix then some v else none) = some d ↔
      (if v < 16 then some v else none) = some d ∧ d < radix := by
    simp only [Option.ite_none_right_eq_some, Option.some.injEq]
    omega
  unfold digit?
  dsimp only
  by_cases hfigure : '0' ≤ c ∧ c ≤ '9'
  · simpa only [if_pos hfigure] using hbelow _
  · by_cases hsmall : 'a' ≤ c ∧ c ≤ 'f'
    · simpa only [if_neg hfigure, if_pos hsmall] using hbelow _
    · by_cases hcapital : 'A' ≤ c ∧ c ≤ 'F'
      · simpa only [if_neg hfigure, if_neg hsmall, if_pos hcapital] using hbelow _
      · simp [hfigure, hsmall, hcapital]

/-- A character that is a digit of sixteen is not beyond the small letters. -/
theorem toNat_lt_of_digit? (h : digit? 16 c = some d) : c.toNat < 103 := by
  have hle (b : Char) (hc : c ≤ b) : c.toNat ≤ b.toNat := by
    rwa [Char.le_def, UInt32.le_iff_toNat_le] at hc
  unfold digit? at h
  dsimp only at h
  by_cases hfigure : '0' ≤ c ∧ c ≤ '9'
  · exact Nat.lt_of_le_of_lt (hle _ hfigure.2) (by decide)
  · by_cases hsmall : 'a' ≤ c ∧ c ≤ 'f'
    · exact Nat.lt_of_le_of_lt (hle _ hsmall.2) (by decide)
    · by_cases hcapital : 'A' ≤ c ∧ c ≤ 'F'
      · exact Nat.lt_of_le_of_lt (hle _ hcapital.2) (by decide)
      · simp [hfigure, hsmall, hcapital] at h

/-- **The digits are the figures and the letters from ten on**, in either case, as far as the radix goes. -/
theorem digit?_eq_some_iff (hradix : radix ≤ 16) : digit? radix c = some d ↔ IsDigit radix d c := by
  have hdigits : ∀ d < 16, digit? 16 d.digitChar = some d ∧ digit? 16 d.digitChar.toUpper = some d := by decide
  have hchars : ∀ k < 103, ∀ d ∈ digit? 16 (Char.ofNat k),
      Char.ofNat k = d.digitChar ∨ Char.ofNat k = d.digitChar.toUpper := by decide
  rw [digit?_eq_some_iff_lt hradix]
  constructor
  · rintro ⟨hc, hd⟩
    have hchar := hchars c.toNat (toNat_lt_of_digit? hc)
    rw [Char.ofNat_toNat] at hchar
    exact ⟨hd, hchar d hc⟩
  · rintro ⟨hd, rfl | rfl⟩
    · exact ⟨(hdigits d (by omega)).1, hd⟩
    · exact ⟨(hdigits d (by omega)).2, hd⟩

theorem not_isDigit_plus (hradix : radix ≤ 16) : ¬ IsDigit radix d '+' := by
  rw [← digit?_eq_some_iff hradix, digit?_eq_some_iff_lt hradix]
  exact fun h => nomatch h.1

/-- Of digits in a row, the first is read as one, and the rest are digits too. -/
theorem digits_cons_iff (hradix : radix ≤ 16) {ds : List Nat} :
    List.Forall₂ (IsDigit radix) ds (c :: rest) ↔
      ∃ d ds', digit? radix c = some d ∧ List.Forall₂ (IsDigit radix) ds' rest ∧ ds = d :: ds' := by
  rw [List.forall₂_cons_right_iff]
  simp only [digit?_eq_some_iff hradix]

theorem continued_eq (radix value : Nat) (ds : List Nat) :
    continued radix value ds = value * radix ^ ds.length + Nat.ofDigits radix ds.reverse := by
  induction ds generalizing value with
  | nil => simp [continued]
  | cons d ds ih =>
    have hnext : continued radix value (d :: ds) = continued radix (value * radix + d) ds := rfl
    rw [hnext, ih, List.reverse_cons, Nat.ofDigits_append, Nat.ofDigits_singleton, List.length_reverse,
      List.length_cons, Nat.pow_succ]
    ring

/-- A number does not become smaller by digits behind it. -/
theorem le_continued (hradix : 0 < radix) (value : Nat) (ds : List Nat) : value ≤ continued radix value ds := by
  rw [continued_eq]
  exact Nat.le_add_right_of_le (Nat.le_mul_of_pos_right value (Nat.pow_pos hradix))

theorem areDigits_iff :
    AreDigits radix cs n ↔ ∃ ds, List.Forall₂ (IsDigit radix) ds cs ∧ continued radix 0 ds = n := by
  simp only [AreDigits, continued_eq, Nat.zero_mul, Nat.zero_add]

/-! ## Scanning -/

/-- **Digits are scanned to the number that they make up**, within the limit. -/
theorem scan_eq_ok_iff (hradix : radix ≤ 16) (hvalue : value ≤ limit) :
    scan radix limit value cs = .ok n ↔
      ∃ ds, List.Forall₂ (IsDigit radix) ds cs ∧ continued radix value ds = n ∧ n ≤ limit := by
  induction cs generalizing value with
  | nil =>
    simp only [scan, List.forall₂_nil_right_iff, Except.ok.injEq]
    constructor
    · rintro rfl
      exact ⟨[], rfl, rfl, hvalue⟩
    · rintro ⟨_, rfl, hn, -⟩
      exact hn
  | cons c rest ih =>
    simp only [scan, digits_cons_iff hradix]
    cases hc : digit? radix c with
    | none => simp
    | some d =>
      have hpos : 0 < radix := Nat.zero_lt_of_lt ((digit?_eq_some_iff hradix).mp hc).1
      dsimp only
      split
      · next hbeyond =>
        -- whatever comes after a digit that passes the limit, the number stays beyond it
        constructor
        · intro h
          cases h
        · rintro ⟨_, ⟨d', ds, hd', -, rfl⟩, rfl, hn⟩
          obtain rfl := Option.some.inj hd'
          have hle := le_continued hpos (value * radix + d) ds
          exact absurd (Nat.le_trans hle hn) (Nat.not_le_of_lt hbeyond)
      · next hwithin =>
        rw [ih (Nat.le_of_not_lt hwithin)]
        constructor
        · rintro ⟨ds, hds, hn⟩
          exact ⟨d :: ds, ⟨d, ds, rfl, hds, rfl⟩, hn⟩
        · rintro ⟨_, ⟨d', ds, hd', hds, rfl⟩, hn⟩
          obtain rfl := Option.some.inj hd'
          exact ⟨ds, hds, hn⟩

/-- **A number is too large as soon as some of its digits are**, before anything that is no digit. -/
theorem scan_eq_tooLarge_iff (hradix : radix ≤ 16) (hvalue : value ≤ limit) :
    scan radix limit value cs = .error .tooLarge ↔
      ∃ front ds, front <+: cs ∧ List.Forall₂ (IsDigit radix) ds front ∧ limit < continued radix value ds := by
  induction cs generalizing value with
  | nil =>
    constructor
    · intro h
      cases h
    · rintro ⟨front, ds, hfront, hds, hbeyond⟩
      obtain rfl := List.prefix_nil.mp hfront
      obtain rfl := List.forall₂_nil_right_iff.mp hds
      exact absurd hvalue (Nat.not_le_of_lt hbeyond)
  | cons c rest ih =>
    constructor
    · intro h
      simp only [scan] at h
      split at h
      · cases h
      · next d hc =>
        split at h
        · next hbeyond =>
          exact ⟨[c], [d], List.prefix_append [c] rest, .cons ((digit?_eq_some_iff hradix).mp hc) .nil, hbeyond⟩
        · next hwithin =>
          obtain ⟨front, ds, hfront, hds, hbeyond⟩ := (ih (Nat.le_of_not_lt hwithin)).mp h
          exact ⟨c :: front, d :: ds, List.cons_prefix_cons.mpr ⟨rfl, hfront⟩,
            .cons ((digit?_eq_some_iff hradix).mp hc) hds, hbeyond⟩
    · rintro ⟨front, ds, hfront, hds, hbeyond⟩
      cases hds with
      | nil => exact absurd hvalue (Nat.not_le_of_lt hbeyond)
      | @cons d c' ds front hc hds =>
        obtain ⟨rfl, hrest⟩ := List.cons_prefix_cons.mp hfront
        simp only [scan, (digit?_eq_some_iff hradix).mpr hc]
        split
        · rfl
        · next hwithin => exact (ih (Nat.le_of_not_lt hwithin)).mpr ⟨front, ds, hrest, hds, hbeyond⟩

theorem scan_ne_empty : scan radix limit value cs ≠ .error .empty := by
  induction cs generalizing value with
  | nil =>
    intro h
    cases h
  | cons c rest ih =>
    simp only [scan]
    split
    · intro h
      cases h
    · split
      · intro h
        cases h
      · exact ih

/-! ## Whole numerals -/

/-- A text without the plus sign in front of it, if there is one. -/
def withoutPlus : List Char → List Char
  | '+' :: cs => cs
  | cs => cs

theorem eq_withoutPlus (text : List Char) : text = withoutPlus text ∨ text = '+' :: withoutPlus text := by
  unfold withoutPlus
  split
  · exact .inr rfl
  · exact .inl rfl

theorem withoutPlus_of_ne (h : c ≠ '+') : withoutPlus (c :: rest) = c :: rest := by
  unfold withoutPlus
  split
  · next heq => exact absurd (List.cons.inj heq).1 h
  · rfl

theorem withoutPlus_of_areDigits (hradix : radix ≤ 16) (h : AreDigits radix cs n) : withoutPlus cs = cs := by
  obtain ⟨ds, hds, -⟩ := h
  cases hds with
  | nil => rfl
  | cons hc _ =>
    apply withoutPlus_of_ne
    rintro rfl
    exact not_isDigit_plus hradix hc

theorem withoutPlus_prefix {front : List Char} (hfront : front ≠ []) (h : front <+: text) :
    withoutPlus front <+: withoutPlus text := by
  obtain ⟨back, rfl⟩ := h
  cases front with
  | nil => exact absurd rfl hfront
  | cons c front =>
    by_cases hc : c = '+'
    · subst hc
      exact List.prefix_append front back
    · rw [List.cons_append, withoutPlus_of_ne hc, withoutPlus_of_ne hc]
      exact List.prefix_append (c :: front) back

/-- A numeral without its plus sign is nothing but digits, and at least one. -/
theorem spells_iff (hradix : radix ≤ 16) :
    Spells radix text n ↔ withoutPlus text ≠ [] ∧ AreDigits radix (withoutPlus text) n := by
  constructor
  · rintro ⟨cs, hne, rfl | rfl, hdigits⟩
    · rw [withoutPlus_of_areDigits hradix hdigits]
      exact ⟨hne, hdigits⟩
    · exact ⟨hne, hdigits⟩
  · rintro ⟨hne, hdigits⟩
    exact ⟨withoutPlus text, hne, eq_withoutPlus text, hdigits⟩

/-- A text begins with a number beyond the limit if its digits do. -/
theorem exceeds_iff (hradix : radix ≤ 16) :
    Exceeds radix limit text ↔ ∃ front n, front <+: withoutPlus text ∧ AreDigits radix front n ∧ limit < n := by
  constructor
  · rintro ⟨front, n, hfront, hspells, hbeyond⟩
    obtain ⟨hne, hdigits⟩ := (spells_iff hradix).mp hspells
    have hnonempty : front ≠ [] := by
      rintro rfl
      exact hne rfl
    exact ⟨withoutPlus front, n, withoutPlus_prefix hnonempty hfront, hdigits, hbeyond⟩
  · rintro ⟨front, n, hfront, hdigits, hbeyond⟩
    have hne : front ≠ [] := by
      rintro rfl
      obtain ⟨ds, hds, rfl⟩ := hdigits
      obtain rfl := List.forall₂_nil_right_iff.mp hds
      exact Nat.not_lt_zero limit hbeyond
    rcases eq_withoutPlus text with htext | htext
    · exact ⟨front, n, htext ▸ hfront, ⟨front, hne, .inl rfl, hdigits⟩, hbeyond⟩
    · refine ⟨'+' :: front, n, ?_, ⟨front, hne, .inr rfl, hdigits⟩, hbeyond⟩
      rw [htext]
      exact List.cons_prefix_cons.mpr ⟨rfl, hfront⟩

/-- What is read is scanned without the plus sign, if anything is left then. -/
theorem read_eq (radix limit : Nat) (text : List Char) :
    read radix limit text =
      if text = [] then .error .empty
      else if withoutPlus text = [] then .error .invalidDigit
      else scan radix limit 0 (withoutPlus text) := by
  cases text with
  | nil => rfl
  | cons c rest =>
    rw [if_neg (List.cons_ne_nil c rest)]
    by_cases hc : c = '+'
    · subst hc
      cases rest with
      | nil => rfl
      | cons c rest => rfl
    · rw [withoutPlus_of_ne hc, if_neg (List.cons_ne_nil c rest)]
      unfold read
      split
      · next heq => cases heq
      · next heq => exact absurd (List.cons.inj heq).1 hc
      · next heq => exact absurd (List.cons.inj heq).1 hc
      · rfl

/-- **Numerals within the limit are read, and nothing else is.** -/
theorem read_eq_ok_iff (hradix : radix ≤ 16) :
    read radix limit text = .ok n ↔ Spells radix text n ∧ n ≤ limit := by
  rw [read_eq, spells_iff hradix]
  by_cases htext : text = []
  · subst htext
    simp [withoutPlus]
  · rw [if_neg htext]
    by_cases hne : withoutPlus text = []
    · simp [hne]
    · rw [if_neg hne, scan_eq_ok_iff hradix (Nat.zero_le limit), areDigits_iff]
      constructor
      · rintro ⟨ds, hds, hn, hle⟩
        exact ⟨⟨hne, ds, hds, hn⟩, hle⟩
      · rintro ⟨⟨-, ds, hds, hn⟩, hle⟩
        exact ⟨ds, hds, hn, hle⟩

theorem read_eq_empty_iff (radix limit : Nat) : read radix limit text = .error .empty ↔ text = [] := by
  rw [read_eq]
  by_cases htext : text = []
  · simp [htext]
  · rw [if_neg htext]
    refine iff_of_false ?_ htext
    split
    · intro h
      cases h
    · exact scan_ne_empty

/-- **A number is too large exactly if the text begins with a numeral beyond the limit.** -/
theorem read_eq_tooLarge_iff (hradix : radix ≤ 16) :
    read radix limit text = .error .tooLarge ↔ Exceeds radix limit text := by
  have hscan : scan radix limit 0 (withoutPlus text) = .error .tooLarge ↔ Exceeds radix limit text := by
    rw [scan_eq_tooLarge_iff hradix (Nat.zero_le limit), exceeds_iff hradix]
    simp only [areDigits_iff]
    constructor
    · rintro ⟨front, ds, hfront, hds, hbeyond⟩
      exact ⟨front, _, hfront, ⟨ds, hds, rfl⟩, hbeyond⟩
    · rintro ⟨front, _, hfront, ⟨ds, hds, rfl⟩, hbeyond⟩
      exact ⟨front, ds, hfront, hds, hbeyond⟩
  rw [← hscan, read_eq]
  by_cases htext : text = []
  · subst htext
    exact iff_of_false nofun nofun
  · rw [if_neg htext]
    split
    · next hnone =>
      rw [hnone]
      exact iff_of_false nofun nofun
    · exact Iff.rfl

/-- In every other case there is a character that is no digit, or no digit at all. -/
theorem read_eq_invalidDigit_iff (hradix : radix ≤ 16) :
    read radix limit text = .error .invalidDigit ↔
      text ≠ [] ∧ ¬ Exceeds radix limit text ∧ ¬ ∃ n ≤ limit, Spells radix text n := by
  rw [← read_eq_tooLarge_iff hradix, ne_eq, ← read_eq_empty_iff radix limit]
  have hok : (∃ n ≤ limit, Spells radix text n) ↔ ∃ n, read radix limit text = .ok n := by
    simp only [read_eq_ok_iff hradix, and_comm]
  rw [hok]
  cases read radix limit text with
  | ok n => simp
  | error problem => cases problem <;> simp

/-! ## Numerals as they are printed -/

theorem AreDigits.append {cs' : List Char} {m : Nat} (h : AreDigits radix cs m) (h' : AreDigits radix cs' n) :
    AreDigits radix (cs ++ cs') (m * radix ^ cs'.length + n) := by
  obtain ⟨ds, hds, rfl⟩ := h
  obtain ⟨ds', hds', rfl⟩ := h'
  refine ⟨ds ++ ds', List.rel_append hds hds', ?_⟩
  rw [List.reverse_append, Nat.ofDigits_append, List.length_reverse, hds'.length_eq]
  ring

theorem areDigits_digitChar (h : n < radix) : AreDigits radix [n.digitChar] n :=
  ⟨[n], .cons ⟨h, .inl rfl⟩ .nil, Nat.ofDigits_singleton⟩

/-- **The digits of a number make it up.** -/
theorem areDigits_toDigits (hradix : 1 < radix) (n : Nat) : AreDigits radix (Nat.toDigits radix n) n := by
  induction n using Nat.strongRecOn with
  | ind n ih =>
    by_cases hsmall : n < radix
    · rw [Nat.toDigits_of_lt_base hsmall]
      exact areDigits_digitChar hsmall
    · have hlarge : radix ≤ n := Nat.le_of_not_lt hsmall
      have hfront := ih (n / radix) (Nat.div_lt_self (by omega) hradix)
      have hlast := areDigits_digitChar (Nat.mod_lt n (by omega : radix > 0))
      have hall := hfront.append hlast
      rw [Nat.toDigits_of_base_le hradix hlarge]
      rwa [List.length_singleton, Nat.pow_one, Nat.div_add_mod'] at hall

theorem areDigits_zeros (hradix : 0 < radix) (k : Nat) : AreDigits radix (List.replicate k '0') 0 := by
  induction k with
  | zero => exact ⟨[], .nil, rfl⟩
  | succ k ih =>
    have hall := (areDigits_digitChar hradix).append ih
    rwa [Nat.zero_mul, Nat.zero_add] at hall

/-- Zeros in front of a numeral do not matter. -/
theorem AreDigits.leftpad (hradix : 0 < radix) (h : AreDigits radix cs n) (width : Nat) :
    AreDigits radix (cs.leftpad width '0') n := by
  have hall := (areDigits_zeros hradix (width - cs.length)).append h
  rwa [Nat.zero_mul, Nat.zero_add] at hall

/-- Nor does the case of the letters. -/
theorem AreDigits.toUpper (hradix : radix ≤ 16) (h : AreDigits radix cs n) :
    AreDigits radix (cs.map Char.toUpper) n := by
  have hupper : ∀ d < 16, d.digitChar.toUpper.toUpper = d.digitChar.toUpper := by decide
  obtain ⟨ds, hds, hn⟩ := h
  refine ⟨ds, List.forall₂_map_right_iff.mpr (hds.imp ?_), hn⟩
  rintro d c ⟨hd, rfl | rfl⟩
  · exact ⟨hd, .inr rfl⟩
  · exact ⟨hd, .inr (hupper d (by omega))⟩

theorem AreDigits.spells (h : AreDigits radix cs n) (hne : cs ≠ []) : Spells radix cs n := ⟨cs, hne, .inl rfl, h⟩

/-- Every problem has a wording of its own. -/
theorem Problem.message_inj {problem problem' : Problem} :
    problem.message = problem'.message ↔ problem = problem' := by
  cases problem <;> cases problem' <;> simp [message]

theorem leftpad_ne_nil {width : Nat} (h : cs ≠ []) : cs.leftpad width c ≠ [] := by
  intro hnil
  exact h (List.append_eq_nil_iff.mp hnil).2

end Numeral

/-! ## Bytes -/

namespace Byte

open Numeral

/-- The radix and the numeral of a text: what follows the mark of sixteen, or else the whole text. -/
inductive Splits : String → Nat → String → Prop
  | sixteen {mark : String} (hmark : mark = "0x" ∨ mark = "0X") (numeral : String) :
      Splits (mark ++ numeral) 16 numeral
  | ten {numeral : String} (hplain : ∀ rest, numeral ≠ "0x" ++ rest ∧ numeral ≠ "0X" ++ rest) :
      Splits numeral 10 numeral

variable {s numeral : String} {radix : Nat}

theorem exists_splits (s : String) : ∃ radix numeral, Splits s radix numeral := by
  by_cases hmarked : ∃ rest, s = "0x" ++ rest ∨ s = "0X" ++ rest
  · obtain ⟨rest, rfl | rfl⟩ := hmarked
    · exact ⟨16, rest, .sixteen (.inl rfl) rest⟩
    · exact ⟨16, rest, .sixteen (.inr rfl) rest⟩
  · refine ⟨10, s, .ten fun rest => ⟨?_, ?_⟩⟩
    · exact fun h => hmarked ⟨rest, .inl h⟩
    · exact fun h => hmarked ⟨rest, .inr h⟩

theorem Splits.le_sixteen (h : Splits s radix numeral) : radix ≤ 16 := by
  cases h with
  | sixteen | ten => decide

theorem Splits.splitRadix_eq (h : Splits s radix numeral) : splitRadix s.toList = (radix, numeral.toList) := by
  cases h with
  | sixteen hmark =>
    rcases hmark with rfl | rfl
    · rw [String.toList_append]
      rfl
    · rw [String.toList_append]
      rfl
  | ten hplain =>
    have hback (mark : String) (rest : List Char) (h : s.toList = mark.toList ++ rest) :
        s = mark ++ String.ofList rest := by
      apply String.toList_inj.mp
      rw [h, String.toList_append, String.toList_ofList]
    unfold splitRadix
    split
    · next rest heq => exact absurd (hback "0x" rest heq) (hplain _).1
    · next rest heq => exact absurd (hback "0X" rest heq) (hplain _).2
    · rfl

theorem Splits.ofText_eq (h : Splits s radix numeral) :
    ofText s = (read radix 255 numeral.toList).map UInt8.ofNat := by
  unfold ofText
  rw [h.splitRadix_eq]

/-- **A text is read as a byte exactly if its numeral spells the byte.** -/
theorem Splits.ofText_eq_ok_iff (h : Splits s radix numeral) {b : UInt8} :
    ofText s = .ok b ↔ Spells radix numeral.toList b.toNat := by
  have hb : b.toNat ≤ 255 := Nat.le_of_lt_succ b.toNat_lt
  rw [h.ofText_eq]
  constructor
  · intro hok
    cases hread : read radix 255 numeral.toList with
    | error problem =>
      rw [hread] at hok
      cases hok
    | ok n =>
      rw [hread] at hok
      obtain ⟨hspells, hn⟩ := (read_eq_ok_iff h.le_sixteen).mp hread
      obtain rfl := Except.ok.inj hok
      rwa [UInt8.toNat_ofNat_of_lt' (Nat.lt_succ_of_le hn)]
  · intro hspells
    rw [(read_eq_ok_iff h.le_sixteen).mpr ⟨hspells, hb⟩]
    exact congrArg Except.ok (UInt8.ofNat_toNat)

theorem Splits.ofText_eq_error_iff (h : Splits s radix numeral) {problem : Problem} :
    ofText s = .error problem ↔ read radix 255 numeral.toList = .error problem := by
  rw [h.ofText_eq]
  cases read radix 255 numeral.toList with
  | ok n => exact iff_of_false nofun nofun
  | error problem' =>
    show Except.error problem' = _ ↔ _
    rw [Except.error.injEq, Except.error.injEq]

/-- Text made of digits has no mark of sixteen. -/
theorem splits_ofList {cs : List Char} {n : Nat} (h : AreDigits 10 cs n) :
    Splits (String.ofList cs) 10 (String.ofList cs) := by
  obtain ⟨ds, hds, -⟩ := h
  have hsecond (first second : Char) (rest : List Char) (hcs : cs = first :: second :: rest) :
      digit? 10 second ≠ none := by
    subst hcs
    obtain ⟨-, ds', -, hrest, -⟩ := (digits_cons_iff (by decide)).mp hds
    obtain ⟨d, -, hd, -, -⟩ := (digits_cons_iff (by decide)).mp hrest
    rw [hd]
    nofun
  refine .ten fun rest => ⟨?_, ?_⟩
  · intro hmarked
    have hcs := congrArg String.toList hmarked
    rw [String.toList_ofList, String.toList_append] at hcs
    exact hsecond '0' 'x' rest.toList hcs rfl
  · intro hmarked
    have hcs := congrArg String.toList hmarked
    rw [String.toList_ofList, String.toList_append] at hcs
    exact hsecond '0' 'X' rest.toList hcs rfl

/-- A complaint that quotes a text and gives a reason. -/
def refusal (s reason : String) : String := "'" ++ s ++ "' is not a byte value: " ++ reason

/-- What becomes of a text: a byte, or a complaint. -/
def outcome (s : String) : Except String UInt8 := (ofText s).mapError (complaint s)

/-- A complaint tells its problem. -/
theorem complaint_eq_refusal_iff {s : String} {problem problem' : Problem} :
    complaint s problem = refusal s problem'.message ↔ problem = problem' := by
  have hcomplaint : complaint s problem = refusal s problem.message := rfl
  rw [hcomplaint]
  unfold refusal
  rw [String.append_right_inj, Problem.message_inj]

theorem outcome_eq_ok_iff {s : String} {b : UInt8} : outcome s = .ok b ↔ ofText s = .ok b := by
  unfold outcome
  cases ofText s with
  | ok b' => simp [Except.mapError]
  | error problem => exact iff_of_false nofun nofun

theorem outcome_eq_error_iff {s : String} {problem : Problem} :
    outcome s = .error (refusal s problem.message) ↔ ofText s = .error problem := by
  unfold outcome
  cases ofText s with
  | ok b' => exact iff_of_false nofun nofun
  | error problem' =>
    show Except.error (complaint s problem') = _ ↔ _
    rw [Except.error.injEq, Except.error.injEq, complaint_eq_refusal_iff]

/-- A byte in decimal, with any zeros in front, is read back. -/
theorem ofText_decimal (b : UInt8) (width : Nat) :
    ofText (String.ofList ((Nat.toDigits 10 b.toNat).leftpad width '0')) = .ok b := by
  have hdigits := (areDigits_toDigits (by decide : 1 < 10) b.toNat).leftpad (by decide) width
  apply (splits_ofList hdigits).ofText_eq_ok_iff.mpr
  rw [String.toList_ofList]
  exact hdigits.spells (leftpad_ne_nil Nat.toDigits_ne_nil)

/-- So is a byte in hexadecimal, behind the mark. -/
theorem ofText_marked {mark : String} (hmark : mark = "0x" ∨ mark = "0X") {cs : List Char} {b : UInt8}
    (hdigits : AreDigits 16 cs b.toNat) (hne : cs ≠ []) (width : Nat) :
    ofText (mark ++ String.ofList (cs.leftpad width '0')) = .ok b := by
  apply (Splits.sixteen hmark _).ofText_eq_ok_iff.mpr
  rw [String.toList_ofList]
  exact (hdigits.leftpad (by decide) width).spells (leftpad_ne_nil hne)

/-- **The texts that are bytes, and the complaints about all others.** Of every text, what stands behind a mark is to
be a numeral of sixteen, or without a mark the whole text one of ten. The text is read as a byte exactly if this
spells the byte. Otherwise the complaint quotes the text, and says that there is nothing to read exactly if there is
nothing, that the number is too large exactly if it begins with a numeral beyond 255, and that a digit is invalid
in all other cases. And every byte is read back from its decimal digits, and from its hexadecimal ones in either
case behind either mark, with any number of zeros in front. -/
theorem ofText_follows_grammar (s : String) :
    (∃ radix numeral, Splits s radix numeral ∧
      (∀ b, outcome s = .ok b ↔ Spells radix numeral.toList b.toNat) ∧
      (outcome s = .error (refusal s "cannot parse integer from empty string") ↔ numeral = "") ∧
      (outcome s = .error (refusal s "number too large to fit in target type") ↔
        Exceeds radix 255 numeral.toList) ∧
      (outcome s = .error (refusal s "invalid digit found in string") ↔
        numeral ≠ "" ∧ ¬ Exceeds radix 255 numeral.toList ∧ ¬ ∃ n ≤ 255, Spells radix numeral.toList n)) ∧
    ∀ (b : UInt8) (width : Nat),
      ofText (String.ofList ((Nat.toDigits 10 b.toNat).leftpad width '0')) = .ok b ∧
        ofText ("0x" ++ Hex.lower width b.toNat) = .ok b ∧ ofText ("0x" ++ Hex.upper width b.toNat) = .ok b ∧
        ofText ("0X" ++ Hex.lower width b.toNat) = .ok b ∧ ofText ("0X" ++ Hex.upper width b.toNat) = .ok b := by
  obtain ⟨radix, numeral, hsplits⟩ := exists_splits s
  have hradix := hsplits.le_sixteen
  have hempty : numeral = "" ↔ numeral.toList = [] := String.toList_eq_nil_iff.symm
  have hrefused (problem : Problem) : outcome s = .error (refusal s problem.message) ↔
      read radix 255 numeral.toList = .error problem :=
    outcome_eq_error_iff.trans hsplits.ofText_eq_error_iff
  refine ⟨⟨radix, numeral, hsplits, fun b => ?_, ?_, ?_, ?_⟩, fun b width => ⟨ofText_decimal b width, ?_⟩⟩
  · exact outcome_eq_ok_iff.trans hsplits.ofText_eq_ok_iff
  · rw [hempty, ← read_eq_empty_iff radix 255]
    exact hrefused .empty
  · rw [← read_eq_tooLarge_iff hradix]
    exact hrefused .tooLarge
  · rw [ne_eq, hempty, ← ne_eq, ← read_eq_invalidDigit_iff hradix]
    exact hrefused .invalidDigit
  · have hlower := areDigits_toDigits (by decide : 1 < 16) b.toNat
    have hupper := hlower.toUpper (by decide)
    have hne : Nat.toDigits 16 b.toNat ≠ [] := Nat.toDigits_ne_nil
    have hne' : (Nat.toDigits 16 b.toNat).map Char.toUpper ≠ [] := fun hnil => hne (List.map_eq_nil_iff.mp hnil)
    exact ⟨ofText_marked (.inl rfl) hlower hne width, ofText_marked (.inl rfl) hupper hne' width,
      ofText_marked (.inr rfl) hlower hne width, ofText_marked (.inr rfl) hupper hne' width⟩

/-! The problem that is further left is the one that is reported. -/

example : ofText "256z" = .error .tooLarge := by decide
example : ofText "2z56" = .error .invalidDigit := by decide

end Byte

end Arcade
