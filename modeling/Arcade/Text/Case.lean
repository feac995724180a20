import Arcade.Text.CaseTable

/-!
# `Arcade.Text.Case` — the lower case of a text

Every character is mapped on its own, with two exceptions of the Unicode standard: the capital dotted
I becomes two characters, and a capital sigma takes its final form at the end of a word, that is,
after a cased character and not before one, other characters that do not end a word being passed
over.

## Contents
- `Case.lowerChar`, `Case.endsWord`, `Case.lower`.
-/

namespace Arcade

namespace Case

/-- Whether a code point lies in one of the ranges. -/
def inRanges (ranges : List (Nat × Nat)) (n : Nat) : Bool :=
  ranges.any fun r => r.1 ≤ n && n ≤ r.2

/-- The lower case of one character that has one of one character. -/
def lowerChar (c : Char) : Char :=
  let n := c.toNat
  match CaseTable.lowercase.find? fun r => r.1 ≤ n && n ≤ r.2.1 && (n - r.1) % r.2.2.1 == 0 with
  | some (first, _, _, image) => Char.ofNat (n - first + image)
  | none => c

/-- Whether the nearest character that is not passed over has a case. -/
def nextIsCased (cs : List Char) : Bool :=
  match cs.dropWhile fun c => inRanges CaseTable.ignorable c.toNat with
  | [] => false
  | c :: _ => inRanges CaseTable.cased c.toNat

/-- Whether a sigma between the characters before it, nearest first, and after it ends a word. -/
def endsWord (before after : List Char) : Bool := nextIsCased before && !nextIsCased after

/-- The lower case of the rest of a text, given the characters before it, nearest first. -/
def lowerFrom (before : List Char) : List Char → List Char
  | [] => []
  | c :: rest =>
    (if c = 'Σ' then [if endsWord before rest then 'ς' else 'σ']
      else if c = 'İ' then ['i', '\u0307']
      else [lowerChar c]) ++ lowerFrom (c :: before) rest

/-- The lower case of a text. -/
def lower (s : String) : String := String.ofList (lowerFrom [] s.toList)

end Case

end Arcade
