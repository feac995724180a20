/-!
# `Arcade.Json.Basic` — JSON values

Configurations and save states are JSON. An object keeps its members in the order in which they were
given. A number is an integer of at most 64 bits, or any other number, of which only its text is
kept: nothing on the board is measured in fractions.

## Contents
- `Json`, with look-up in objects (`Json.get?`) and the plain readings of a value (`asNat?`, …).
- `Json.sortKeys`: every object with its members in order of their names.
-/

namespace Arcade

/-- A JSON value. -/
inductive Json
  | null
  | bool (b : Bool)
  | integer (n : Int)
  | decimal (text : String)
  | string (s : String)
  | array (items : List Json)
  | object (members : List (String × Json))
  deriving Repr, Inhabited

namespace Json

/-- A natural number as a value. -/
def nat (n : Nat) : Json := .integer n

/-- The value of the member of that name. -/
def get? (v : Json) (name : String) : Option Json :=
  match v with
  | .object members => members.lookup name
  | _ => none

/-- The text of a string. -/
def asString? : Json → Option String
  | .string s => some s
  | _ => none

/-- The truth value of a boolean. -/
def asBool? : Json → Option Bool
  | .bool b => some b
  | _ => none

/-- An integer that is at least zero and below a bound. -/
def asBelow? (bound : Nat) : Json → Option Nat
  | .integer n => if 0 ≤ n ∧ n < bound then some n.toNat else none
  | _ => none

/-- An integer of 8 bits. -/
def asUInt8? (v : Json) : Option UInt8 := (v.asBelow? UInt8.size).map UInt8.ofNat

/-- An integer of 32 bits. -/
def asUInt32? (v : Json) : Option UInt32 := (v.asBelow? UInt32.size).map UInt32.ofNat

/-- An integer of 64 bits. -/
def asUInt64? (v : Json) : Option UInt64 := (v.asBelow? UInt64.size).map UInt64.ofNat

/-- The items of an array. -/
def asArray? : Json → Option (List Json)
  | .array items => some items
  | _ => none

/-! ## Order of members -/

/-- Inserts a member into members in order of their names. -/
def insertMember (m : String × Json) : List (String × Json) → List (String × Json)
  | [] => [m]
  | n :: rest => if m.1 < n.1 then m :: n :: rest else n :: insertMember m rest

mutual

/-- The same value with the members of every object in order of their names. -/
def sortKeys : Json → Json
  | .array items => .array (sortItems items)
  | .object members => .object (sortMembers members)
  | v => v

/-- Sorts inside every item. -/
def sortItems : List Json → List Json
  | [] => []
  | v :: rest => sortKeys v :: sortItems rest

/-- Sorts members by their names, and inside each of them. -/
def sortMembers : List (String × Json) → List (String × Json)
  | [] => []
  | (name, v) :: rest => insertMember (name, sortKeys v) (sortMembers rest)

end

end Json

end Arcade
