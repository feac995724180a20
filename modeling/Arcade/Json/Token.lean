import Arcade.Json.Basic

/-!
# `Arcade.Json.Token` — the words of a JSON text

Texts are read from left to right, and of several things wrong with a text the first one met is
reported. `Fault` tells three kinds apart: the text ended too early, it is no JSON, or it is JSON of
the wrong shape for the data asked for.

A number or a string can be read for its value or only be passed over. Passing over checks the form
alone; reading also refuses half a surrogate pair in a string and a number beyond the largest
double.

## Contents
- `Json.Fault`, `Json.Reader`.
- Blanks and fixed words: `skipBlanks`, `word`.
- Strings: `stringBody` for the value, `passString` for the form.
- Numbers: `numeral` for the form, `Numeral.value?` for the value, `passNumber` for the form alone.
-/

namespace Arcade

namespace Json

/-- Why a text cannot be read. -/
inductive Fault
  /-- The text ended too early. -/
  | ended
  /-- The text is no JSON. -/
  | malformed
  /-- The text is JSON of another shape. -/
  | mismatched
  deriving DecidableEq, Repr

/-- Reads something at the head of a text: its value and the text after it, or the first fault. -/
abbrev Reader (α : Type) := List Char → Except Fault (α × List Char)

/-! ## Blanks and fixed words -/

/-- The four blanks that may stand between the words of a text. -/
def isBlank (c : Char) : Bool := c = ' ' || c = '\n' || c = '\t' || c = '\r'

/-- The text from its first character that is no blank. -/
def skipBlanks (cs : List Char) : List Char := cs.dropWhile isBlank

/-- Takes the letters of a fixed word off a text. -/
def word : List Char → List Char → Except Fault (List Char)
  | [], cs => .ok cs
  | _ :: _, [] => .error .ended
  | l :: ls, c :: cs => if c = l then word ls cs else .error .malformed

/-! ## Strings -/

/-- The value of a hexadecimal digit. -/
def hexValue? (c : Char) : Option Nat :=
  if '0' ≤ c ∧ c ≤ '9' then some (c.toNat - 48)
  else if 'a' ≤ c ∧ c ≤ 'f' then some (c.toNat - 87)
  else if 'A' ≤ c ∧ c ≤ 'F' then some (c.toNat - 55)
  else none

/-- The value of four hexadecimal digits. -/
def hexWord? (a b c d : Char) : Option Nat := do
  let a ← hexValue? a
  let b ← hexValue? b
  let c ← hexValue? c
  let d ← hexValue? d
  pure (((a * 16 + b) * 16 + c) * 16 + d)

/-- What is wrong where four digits should follow and do not: an end of the text within the next
four bytes counts as an early end, whatever stands before it. -/
def shortEscape (cs : List Char) : Fault :=
  if (cs.take 4).foldl (fun n c => n + c.utf8Size) 0 < 4 then .ended else .malformed

/-- The character that a one-letter escape stands for. -/
def simpleEscape? : Char → Option Char
  | '"' => some '"'
  | '\\' => some '\\'
  | '/' => some '/'
  | 'b' => some '\x08'
  | 'f' => some '\x0c'
  | 'n' => some '\n'
  | 'r' => some '\r'
  | 't' => some '\t'
  | _ => none

/-- The first of the two code units of a surrogate pair. -/
def isLeading (n : Nat) : Bool := 0xD800 ≤ n && n ≤ 0xDBFF

/-- The second of the two code units of a surrogate pair. -/
def isTrailing (n : Nat) : Bool := 0xDC00 ≤ n && n ≤ 0xDFFF

/-- The character of a surrogate pair. -/
def joinPair (leading trailing : Nat) : Char :=
  Char.ofNat (0x10000 + (leading - 0xD800) * 0x400 + (trailing - 0xDC00))

/-- Puts a character in front of what the rest of a string holds. -/
def pushChar (c : Char) :
    Except Fault (List Char × List Char) → Except Fault (List Char × List Char)
  | .ok (cs, rest) => .ok (c :: cs, rest)
  | .error f => .error f

/-- The characters of a string up to its closing quote, and the text after the quote. -/
def stringBody : Reader (List Char)
  | [] => .error .ended
  | '"' :: rest => .ok ([], rest)
  | ['\\'] => .error .ended
  | '\\' :: 'u' :: a :: b :: c :: d :: rest =>
    match hexWord? a b c d with
    | none => .error .malformed
    | some n =>
      if isTrailing n then .error .malformed
      else if isLeading n then
        match rest with
        | [] => .error .ended
        | ['\\'] => .error .ended
        | '\\' :: 'u' :: a :: b :: c :: d :: rest =>
          match hexWord? a b c d with
          | none => .error .malformed
          | some m =>
            if isTrailing m then pushChar (joinPair n m) (stringBody rest)
            else .error .malformed
        | '\\' :: 'u' :: rest => .error (shortEscape rest)
        | _ => .error .malformed
      else pushChar (Char.ofNat n) (stringBody rest)
  | '\\' :: 'u' :: rest => .error (shortEscape rest)
  | '\\' :: e :: rest =>
    match simpleEscape? e with
    | none => .error .malformed
    | some c => pushChar c (stringBody rest)
  | c :: rest => if c.toNat < 32 then .error .malformed else pushChar c (stringBody rest)

/-- The text after the closing quote of a string that is only passed over. -/
def passString : List Char → Except Fault (List Char)
  | [] => .error .ended
  | '"' :: rest => .ok rest
  | ['\\'] => .error .ended
  | '\\' :: 'u' :: a :: b :: c :: d :: rest =>
    match hexWord? a b c d with
    | none => .error .malformed
    | some _ => passString rest
  | '\\' :: 'u' :: rest => .error (shortEscape rest)
  | '\\' :: e :: rest =>
    match simpleEscape? e with
    | none => .error .malformed
    | some _ => passString rest
  | c :: rest => if c.toNat < 32 then .error .malformed else passString rest

/-! ## Numbers -/

/-- A number as it is written: its digits, kept as they stand. -/
structure Numeral where
  negative : Bool
  whole : List Char
  fraction : Option (List Char)
  /-- Whether the exponent is negative, and its digits. -/
  exponent : Option (Bool × List Char)
  deriving Repr

/-- The value of a decimal digit. -/
def digitValue (d : Char) : Nat := d.toNat - 48

/-- The value of decimal digits. -/
def ofDigits (ds : List Char) : Nat := ds.foldl (fun n d => 10 * n + digitValue d) 0

/-- One or more digits. -/
def digits (cs : List Char) : Except Fault (List Char × List Char) :=
  match cs with
  | [] => .error .ended
  | c :: _ =>
    if c.isDigit then .ok (cs.takeWhile Char.isDigit, cs.dropWhile Char.isDigit)
    else .error .malformed

/-- The digits before the point: a zero alone, or digits of which the first is no zero. -/
def wholePart (cs : List Char) : Except Fault (List Char × List Char) :=
  match cs with
  | '0' :: c :: rest => if c.isDigit then .error .malformed else .ok (['0'], c :: rest)
  | _ => digits cs

/-- The point and the digits after it, if there is a point. -/
def fractionPart (cs : List Char) : Except Fault (Option (List Char) × List Char) :=
  match cs with
  | '.' :: rest => (digits rest).map fun (ds, rest) => (some ds, rest)
  | _ => .ok (none, cs)

/-- The sign and the digits of the exponent. -/
def signedDigits (cs : List Char) : Except Fault ((Bool × List Char) × List Char) :=
  match cs with
  | '+' :: rest => (digits rest).map fun (ds, rest) => ((false, ds), rest)
  | '-' :: rest => (digits rest).map fun (ds, rest) => ((true, ds), rest)
  | _ => (digits cs).map fun (ds, rest) => ((false, ds), rest)

/-- The exponent, if there is one. -/
def exponentPart (cs : List Char) : Except Fault (Option (Bool × List Char) × List Char) :=
  match cs with
  | 'e' :: rest => (signedDigits rest).map fun (e, rest) => (some e, rest)
  | 'E' :: rest => (signedDigits rest).map fun (e, rest) => (some e, rest)
  | _ => .ok (none, cs)

/-- A number, its sign already taken off. -/
def unsignedNumeral (negative : Bool) : Reader Numeral := fun cs => do
  let (whole, cs) ← wholePart cs
  let (fraction, cs) ← fractionPart cs
  let (exponent, cs) ← exponentPart cs
  pure (⟨negative, whole, fraction, exponent⟩, cs)

/-- A number as it is written. -/
def numeral : Reader Numeral
  | '-' :: rest => unsignedNumeral true rest
  | cs => unsignedNumeral false cs

/-- The text after a number that is only passed over. A number that breaks off is no number here,
even where the text ends. -/
def passNumber (cs : List Char) : Except Fault (List Char) :=
  match numeral cs with
  | .error _ => .error .malformed
  | .ok (_, rest) => .ok rest

/-- A number rounded to 53 significant bits, a tie going to the even neighbour. -/
def round53 (n : Nat) : Nat :=
  let shift := n.log2 - 52
  let unit := 1 <<< shift
  let (quotient, remainder) := (n / unit, n % unit)
  if unit < 2 * remainder ∨ (unit = 2 * remainder ∧ quotient % 2 = 1) then (quotient + 1) * unit
  else quotient * unit

/-- Digits and the power of ten that they are multiplied by. -/
structure Scaled where
  significand : Nat
  exponent : Int
  deriving Repr

/-- Takes the digits before the point as long as the significand has at most 64 bits. Digits left
out count as zeros. -/
def Scaled.takeWhole (s : Scaled) : List Char → Scaled
  | [] => s
  | d :: ds =>
    let n := 10 * s.significand + digitValue d
    if n < UInt64.size then takeWhole { s with significand := n } ds
    else { s with exponent := s.exponent + (d :: ds).length }

/-- Takes the digits after the point as long as the significand has at most 64 bits. -/
def Scaled.takeFraction (s : Scaled) : List Char → Scaled
  | [] => s
  | d :: ds =>
    let n := 10 * s.significand + digitValue d
    if n < UInt64.size then takeFraction ⟨n, s.exponent - 1⟩ ds
    else s

/-- Whether a number is beyond the largest double. The significand and the power of ten are each
rounded to a double, and so is their product. -/
def Scaled.overflows (s : Scaled) : Bool :=
  s.significand != 0 &&
    (308 < s.exponent ||
      0 ≤ s.exponent &&
        1 <<< 1024 ≤ round53 (round53 s.significand * round53 (Nat.pow 10 s.exponent.toNat)))

/-- The text of a number. -/
def Numeral.text (n : Numeral) : List Char :=
  (if n.negative then ['-'] else []) ++ n.whole ++
    (match n.fraction with
      | none => []
      | some ds => '.' :: ds) ++
    (match n.exponent with
      | none => []
      | some (negative, ds) => 'e' :: (if negative then ['-'] else []) ++ ds)

/-- The exponent that is written, or zero. -/
def Numeral.power (n : Numeral) : Int :=
  match n.exponent with
  | none => 0
  | some (negative, ds) => if negative then -(ofDigits ds : Int) else ofDigits ds

/-- Whether a number is beyond the largest double. -/
def Numeral.overflows (n : Numeral) : Bool :=
  let s := ((Scaled.mk 0 0).takeWhole n.whole).takeFraction (n.fraction.getD [])
  Scaled.overflows { s with exponent := s.exponent + n.power }

/-- The value of a number: an integer if it is written as one and has at most 64 bits. A number
beyond the largest double has no value. -/
def Numeral.value? (n : Numeral) : Option Json :=
  let magnitude := ofDigits n.whole
  if n.fraction.isNone ∧ n.exponent.isNone ∧ n.negative = false ∧ magnitude < UInt64.size then
    some (.integer magnitude)
  else if n.fraction.isNone ∧ n.exponent.isNone ∧ n.negative = true ∧ magnitude ≠ 0 ∧
      magnitude ≤ UInt64.size / 2 then
    some (.integer (-magnitude))
  else if n.overflows then none
  else some (.decimal (String.ofList n.text))

end Json

end Arcade
