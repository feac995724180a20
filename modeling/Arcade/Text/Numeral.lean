/-!
# `Arcade.Text.Numeral` — reading unsigned numerals

A numeral is an optional plus sign and one or more digits, with any number of leading zeros. It is
read from left to right, so of two things wrong with it the one further left is reported: a
character that is no digit, or the digit with which the value passes the limit.

## Contents
- `Numeral.digit?`: the value of a digit in a radix up to sixteen.
- `Numeral.Problem` and its wording.
- `Numeral.scan` over digits, `Numeral.read` over a whole numeral.
- `Byte.ofText`: a byte in decimal, or in hexadecimal after `0x`.
-/

namespace Arcade

namespace Numeral

/-- The value of a digit, letters counting from ten in either case. -/
def digit? (radix : Nat) (c : Char) : Option Nat :=
  let v :=
    if '0' ≤ c ∧ c ≤ '9' then c.toNat - 48
    else if 'a' ≤ c ∧ c ≤ 'f' then c.toNat - 87
    else if 'A' ≤ c ∧ c ≤ 'F' then c.toNat - 55
    else radix
  if v < radix then some v else none

/-- What can be wrong with a numeral. -/
inductive Problem
  | empty
  | invalidDigit
  | tooLarge
  deriving DecidableEq, Repr

/-- The wording of a problem. -/
def Problem.message : Problem → String
  | .empty => "cannot parse integer from empty string"
  | .invalidDigit => "invalid digit found in string"
  | .tooLarge => "number too large to fit in target type"

/-- Continues a value with further digits; it may nowhere pass the limit. -/
def scan (radix limit : Nat) : Nat → List Char → Except Problem Nat
  | value, [] => .ok value
  | value, c :: rest =>
    match digit? radix c with
    | none => .error .invalidDigit
    | some d =>
      let value := value * radix + d
      if limit < value then .error .tooLarge else scan radix limit value rest

/-- Reads a numeral no larger than the limit. -/
def read (radix limit : Nat) : List Char → Except Problem Nat
  | [] => .error .empty
  | ['+'] => .error .invalidDigit
  | '+' :: digits => scan radix limit 0 digits
  | digits => scan radix limit 0 digits

/-- Splits a radix mark `0x` or `0X` off: the radix, and the text without the mark. -/
def splitRadix : List Char → Nat × List Char
  | '0' :: 'x' :: rest => (16, rest)
  | '0' :: 'X' :: rest => (16, rest)
  | text => (10, text)

/-- A scanned value stays within the limit. -/
theorem scan_le {radix limit value n : Nat} {cs : List Char} (hv : value ≤ limit)
    (h : scan radix limit value cs = .ok n) : n ≤ limit := by
  induction cs generalizing value with
  | nil => simp only [scan, Except.ok.injEq] at h; omega
  | cons c rest ih =>
    simp only [scan] at h
    split at h
    · simp at h
    · split at h
      · simp at h
      · next hle => exact ih (Nat.le_of_not_lt hle) h

end Numeral

namespace Byte

/-- Reads a byte in decimal, or in hexadecimal after `0x` or `0X`. -/
def ofText (s : String) : Except Numeral.Problem UInt8 :=
  let (radix, numeral) := Numeral.splitRadix s.toList
  (Numeral.read radix 255 numeral).map UInt8.ofNat

/-- The complaint about text that is no byte; it quotes the text unchanged. -/
def complaint (s : String) (p : Numeral.Problem) : String :=
  s!"'{s}' is not a byte value: {p.message}"

end Byte

end Arcade
