import Arcade.Json.Basic

/-!
# `Arcade.Json.Record` — data of a known shape in a JSON value

A record is an object with a member for each field, other members being ignored, or an array of the
fields in order. A choice between names is the name, or an object whose only member has that name
and the value `null`.

## Contents
- `Json.fields?`: what a value gives for each field of a record.
- `Json.choice?`, `Json.exactly?`.
-/

namespace Arcade

namespace Json

/-- What a value gives for each field of a record, in the order of the names: a field that is not
given has nothing. A value that is no record, or an array with more items than fields, is refused. -/
def fields? (names : List String) : Json → Option (List (Option Json))
  | .object members => some (names.map fun name => members.lookup name)
  | .array items =>
    if items.length ≤ names.length then
      some (items.map some ++ List.replicate (names.length - items.length) none)
    else none
  | _ => none

/-- One of several names. -/
def choice? {α : Type} (names : List (String × α)) : Json → Option α
  | .string s => names.lookup s
  | .object [(s, .null)] => names.lookup s
  | _ => none

/-- The items of an array of a given length, each read by the same function. -/
def exactly? {α : Type} (n : Nat) (read : Json → Option α) (v : Json) : Option (List α) := do
  let items ← v.asArray?
  if items.length = n then items.mapM read else none

end Json

end Arcade
