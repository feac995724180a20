import Arcade.Json.Reader

/-!
# `Arcade.Json.Typed` — reading data of a known shape from JSON text

The text is read for the shape that is asked for, so the first fault in reading order decides even
when a later one is of a worse kind. A record may be written as an object, whose unknown members are
passed over, or as an array of its fields in order. A choice between names is written as the name,
or as an object whose only member has that name and the value `null`.

## Contents
- `Json.wrongKind`: the fault where a value of another kind stands.
- Readers for plain data: `text`, `naturalBelow`, `boolean`, `optional`, `choice`.
- Readers for several values: `exactly`, `record`.
-/

namespace Arcade

namespace Json

/-- The fault where another kind of value was asked for. A string, a word or a number is read to its
end first, and may have a fault of its own. -/
def wrongKind (cs : List Char) : Fault :=
  let after {α : Type} : Except Fault α → Fault
    | .error f => f
    | .ok _ => .mismatched
  match cs with
  | [] => .ended
  | 'n' :: rest => after (word "ull".toList rest)
  | 't' :: rest => after (word "rue".toList rest)
  | 'f' :: rest => after (word "alse".toList rest)
  | '"' :: rest => after (stringBody rest)
  | '[' :: _ => .mismatched
  | '{' :: _ => .mismatched
  | c :: rest =>
    if c = '-' ∨ c.isDigit then
      match numeral (c :: rest) with
      | .error f => f
      | .ok (n, _) => if n.value?.isNone then .malformed else .mismatched
    else .malformed

/-! ## Plain data -/

/-- A string. -/
def text : Reader String := fun cs =>
  match skipBlanks cs with
  | '"' :: rest => (stringBody rest).map fun (s, rest) => (String.ofList s, rest)
  | cs => .error (wrongKind cs)

/-- An integer that is at least zero and below a bound. -/
def naturalBelow (bound : Nat) : Reader Nat := fun cs =>
  match skipBlanks cs with
  | [] => .error .ended
  | c :: rest =>
    if c = '-' ∨ c.isDigit then
      match numeral (c :: rest) with
      | .error f => .error f
      | .ok (n, rest) =>
        match n.value? with
        | none => .error .malformed
        | some v =>
          match v.asBelow? bound with
          | none => .error .mismatched
          | some k => .ok (k, rest)
    else .error (wrongKind (c :: rest))

/-- A truth value. -/
def boolean : Reader Bool := fun cs =>
  match skipBlanks cs with
  | 't' :: rest => (word "rue".toList rest).map fun rest => (true, rest)
  | 'f' :: rest => (word "alse".toList rest).map fun rest => (false, rest)
  | cs => .error (wrongKind cs)

/-- Something that may be absent, which is written `null`. -/
def optional {α : Type} (read : Reader α) : Reader (Option α) := fun cs =>
  match skipBlanks cs with
  | 'n' :: rest => (word "ull".toList rest).map fun rest => (none, rest)
  | cs => (read cs).map fun (a, rest) => (some a, rest)

/-- The word `null`. -/
def nothing : Reader Unit := fun cs =>
  match skipBlanks cs with
  | 'n' :: rest => (word "ull".toList rest).map fun rest => ((), rest)
  | cs => .error (wrongKind cs)

/-- One of several names. The object form asks for a quote as soon as it is opened, so that a value
of another kind there breaks the form of the text. -/
def choice {α : Type} (names : List (String × α)) : Reader α := fun cs =>
  let named : Reader α := fun cs => do
    let (name, rest) ← stringBody cs
    match names.lookup (String.ofList name) with
    | none => .error .mismatched
    | some a => pure (a, rest)
  match skipBlanks cs with
  | [] => .error .ended
  | '"' :: rest => named rest
  | '{' :: rest => do
    let rest ← openName rest
    let (a, rest) ← named rest
    let rest ← colon rest
    let ((), rest) ← nothing rest
    match skipBlanks rest with
    | [] => .error .ended
    | '}' :: rest => .ok (a, rest)
    | _ => .error .malformed
  | _ => .error .malformed

/-! ## Several values -/

/-- The next item of an array, or nothing before the closing bracket. The first item has no comma
before it. -/
def nextItem {α : Type} (first : Bool) (read : Reader α) : Reader (Option α) := fun cs =>
  match skipBlanks cs with
  | [] => .error .ended
  | ']' :: rest => .ok (none, ']' :: rest)
  | c :: rest =>
    if first then (read (c :: rest)).map fun (a, rest) => (some a, rest)
    else if c = ',' then
      match skipBlanks rest with
      | [] => .error .ended
      | ']' :: _ => .error .malformed
      | rest => (read rest).map fun (a, rest) => (some a, rest)
    else .error .malformed

/-- The closing bracket of an array. Further items are too many. -/
def closeArray (cs : List Char) : Except Fault (List Char) :=
  match skipBlanks cs with
  | [] => .error .ended
  | ']' :: rest => .ok rest
  | _ => .error .malformed

/-- The items of an array that must hold a given number of them. -/
def exactItems {α : Type} (read : Reader α) : Nat → Bool → Reader (List α)
  | 0, _, cs => .ok ([], cs)
  | n + 1, first, cs =>
    match nextItem first read cs with
    | .error f => .error f
    | .ok (none, _) => .error .mismatched
    | .ok (some a, rest) => (exactItems read n false rest).map fun (as, rest) => (a :: as, rest)

/-- An array of a given length. -/
def exactly {α : Type} (n : Nat) (read : Reader α) : Reader (List α) := fun cs =>
  match skipBlanks cs with
  | '[' :: rest => do
    let (as, rest) ← exactItems read n true rest
    let rest ← closeArray rest
    pure (as, rest)
  | cs => .error (wrongKind cs)

/-- A field of a record of which the fields read so far are kept in a `σ`. -/
structure Field (σ : Type) where
  name : String
  /-- Whether the field has been read. -/
  present : σ → Bool
  /-- Reads the field. -/
  read : σ → Reader σ

/-- The name of the next member of an object, or nothing at its closing bracket. -/
def nextName (first : Bool) : Reader (Option String) := fun cs =>
  match skipBlanks cs with
  | [] => .error .ended
  | '}' :: rest => .ok (none, rest)
  | c :: rest =>
    let name (cs : List Char) : Except Fault (Option String × List Char) := do
      let rest ← openName cs
      let (s, rest) ← stringBody rest
      pure (some (String.ofList s), rest)
    if first then name (c :: rest)
    else if c = ',' then name rest
    else .error .malformed

/-- Reads members up to the closing bracket: a field into the record, once; another member is passed
over. -/
def recordMembers {σ : Type} (fields : List (Field σ)) : Nat → Bool → σ → Reader σ
  | 0, _, _, _ => .error .ended
  | fuel + 1, first, s, cs =>
    match nextName first cs with
    | .error f => .error f
    | .ok (none, rest) => .ok (s, rest)
    | .ok (some name, rest) =>
      match fields.find? fun f => f.name = name with
      | none =>
        match colon rest with
        | .error f => .error f
        | .ok rest =>
          match passOver rest with
          | .error f => .error f
          | .ok rest => recordMembers fields fuel false s rest
      | some field =>
        if field.present s then .error .mismatched
        else
          match colon rest with
          | .error f => .error f
          | .ok rest =>
            match field.read s rest with
            | .error f => .error f
            | .ok (s, rest) => recordMembers fields fuel false s rest

/-- Reads the fields of a record from an array, as far as it goes. -/
def recordItems {σ : Type} : List (Field σ) → Bool → σ → Reader σ
  | [], _, s, cs => (closeArray cs).map fun rest => (s, rest)
  | field :: fields, first, s, cs =>
    match nextItem first (field.read s) cs with
    | .error f => .error f
    | .ok (none, rest) => (closeArray rest).map fun rest => (s, rest)
    | .ok (some s, rest) => recordItems fields false s rest

/-- A record, from an object or from an array of its fields. -/
def record {σ : Type} (fields : List (Field σ)) (start : σ) : Reader σ := fun cs =>
  match skipBlanks cs with
  | '{' :: rest => recordMembers fields (rest.length + 1) true start rest
  | '[' :: rest => recordItems fields true start rest
  | cs => .error (wrongKind cs)

end Json

end Arcade
