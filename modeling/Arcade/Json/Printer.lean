import Arcade.Json.Basic

/-!
# `Arcade.Json.Printer` — JSON values as text

Two forms of one text: `compact` without blanks, and `pretty` with one item or member per line,
indented by two blanks for each level, and empty containers kept on one line. A string escapes the
quote, the backslash and the characters below the blank, and nothing else.

## Contents
- `Json.escape` for one character, `Json.quote` for a string.
- `Json.compact`, `Json.pretty`.
-/

namespace Arcade

namespace Json

/-- The digit for a number below sixteen, in lower case. -/
def hexDigit (n : Nat) : Char := Char.ofNat (if n < 10 then 48 + n else 87 + n)

/-- A character as it stands inside a quoted string. -/
def escape (c : Char) : List Char :=
  if c = '"' then ['\\', '"']
  else if c = '\\' then ['\\', '\\']
  else if c = '\x08' then ['\\', 'b']
  else if c = '\x0c' then ['\\', 'f']
  else if c = '\n' then ['\\', 'n']
  else if c = '\r' then ['\\', 'r']
  else if c = '\t' then ['\\', 't']
  else if c.toNat < 32 then
    ['\\', 'u', '0', '0', hexDigit (c.toNat / 16), hexDigit (c.toNat % 16)]
  else [c]

/-- A string in quotes. -/
def quote (s : String) : List Char := '"' :: (s.toList.flatMap escape ++ ['"'])

/-- The text of an integer. -/
def integerText (n : Int) : List Char :=
  if n < 0 then '-' :: Nat.toDigits 10 n.natAbs else Nat.toDigits 10 n.natAbs

/-- The text of a value that holds no other values. -/
def scalarText : Json → List Char
  | .null => "null".toList
  | .bool true => "true".toList
  | .bool false => "false".toList
  | .integer n => integerText n
  | .decimal text => text.toList
  | .string s => quote s
  | .array _ => []
  | .object _ => []

mutual

/-- A value without blanks. -/
def compactText : Json → List Char
  | .array items => '[' :: (compactItems true items ++ [']'])
  | .object members => '{' :: (compactMembers true members ++ ['}'])
  | v => scalarText v

/-- Items without blanks, a comma before each but the first. -/
def compactItems : Bool → List Json → List Char
  | _, [] => []
  | true, v :: rest => compactText v ++ compactItems false rest
  | false, v :: rest => ',' :: (compactText v ++ compactItems false rest)

/-- Members without blanks, a comma before each but the first. -/
def compactMembers : Bool → List (String × Json) → List Char
  | _, [] => []
  | true, (name, v) :: rest =>
    quote name ++ ':' :: (compactText v ++ compactMembers false rest)
  | false, (name, v) :: rest =>
    ',' :: (quote name ++ ':' :: (compactText v ++ compactMembers false rest))

end

/-- A new line, indented to a level. -/
def newLine (level : Nat) : List Char := '\n' :: List.replicate (2 * level) ' '

mutual

/-- A value over several lines, its lines after the first indented to a level. -/
def prettyText (level : Nat) : Json → List Char
  | .array [] => ['[', ']']
  | .array (v :: rest) =>
    '[' :: (prettyItems (level + 1) true (v :: rest) ++ newLine level ++ [']'])
  | .object [] => ['{', '}']
  | .object (m :: rest) =>
    '{' :: (prettyMembers (level + 1) true (m :: rest) ++ newLine level ++ ['}'])
  | v => scalarText v

/-- Items on lines of their own, a comma before each line but the first. -/
def prettyItems (level : Nat) : Bool → List Json → List Char
  | _, [] => []
  | true, v :: rest => newLine level ++ prettyText level v ++ prettyItems level false rest
  | false, v :: rest => ',' :: (newLine level ++ prettyText level v ++ prettyItems level false rest)

/-- Members on lines of their own, a comma before each line but the first. -/
def prettyMembers (level : Nat) : Bool → List (String × Json) → List Char
  | _, [] => []
  | true, (name, v) :: rest =>
    newLine level ++ quote name ++
      ':' :: ' ' :: (prettyText level v ++ prettyMembers level false rest)
  | false, (name, v) :: rest =>
    ',' :: (newLine level ++ quote name ++
      ':' :: ' ' :: (prettyText level v ++ prettyMembers level false rest))

end

/-- The value as text without blanks. -/
def compact (v : Json) : String := String.ofList (compactText v)

/-- The value as text over several lines. -/
def pretty (v : Json) : String := String.ofList (prettyText 0 v)

end Json

end Arcade
