import Arcade.Json.Token

/-!
# `Arcade.Json.Reader` — reading and passing over JSON texts

A value is read into a `Json`, or passed over when nobody asks for it. The nesting of a value is
followed with a count of steps, which no text exhausts: a step from a value into its first item takes
a character, so that no more than two steps go by for each.

## Contents
- `Json.readValue`, `Json.value` and `Json.ofText`: any value.
- `Json.passValue`, `Json.passOver`: over any value, checking its form alone.
-/

namespace Arcade

namespace Json

/-- The comma before the next of several items or members, or the closing bracket: what stands
there must be one of them, and the comma only after an item. -/
inductive Follow
  | more (rest : List Char)
  | close (rest : List Char)
  | fault (f : Fault)

/-- What follows an item of a container that ends with a bracket. -/
def follow (bracket : Char) (cs : List Char) : Follow :=
  match skipBlanks cs with
  | [] => .fault .ended
  | c :: rest =>
    if c = ',' then .more rest
    else if c = bracket then .close rest
    else .fault .malformed

/-- The colon between the name and the value of a member. -/
def colon (cs : List Char) : Except Fault (List Char) :=
  match skipBlanks cs with
  | [] => .error .ended
  | ':' :: rest => .ok rest
  | _ => .error .malformed

/-- The quote that opens the name of a member. -/
def openName (cs : List Char) : Except Fault (List Char) :=
  match skipBlanks cs with
  | [] => .error .ended
  | '"' :: rest => .ok rest
  | _ => .error .malformed

mutual

/-- Reads a value. -/
def readValue : Nat → Reader Json
  | 0, _ => .error .ended
  | fuel + 1, cs =>
    match skipBlanks cs with
    | [] => .error .ended
    | 'n' :: rest => (word "ull".toList rest).map fun rest => (.null, rest)
    | 't' :: rest => (word "rue".toList rest).map fun rest => (.bool true, rest)
    | 'f' :: rest => (word "alse".toList rest).map fun rest => (.bool false, rest)
    | '"' :: rest => (stringBody rest).map fun (s, rest) => (.string (String.ofList s), rest)
    | '[' :: rest =>
      match skipBlanks rest with
      | ']' :: rest => .ok (.array [], rest)
      | rest => (readItems fuel rest).map fun (items, rest) => (.array items, rest)
    | '{' :: rest =>
      match skipBlanks rest with
      | '}' :: rest => .ok (.object [], rest)
      | rest => (readMembers fuel rest).map fun (members, rest) => (.object members, rest)
    | c :: rest =>
      if c = '-' ∨ c.isDigit then
        match numeral (c :: rest) with
        | .error f => .error f
        | .ok (n, rest) =>
          match n.value? with
          | none => .error .malformed
          | some v => .ok (v, rest)
      else .error .malformed

/-- Reads the items of an array up to its closing bracket. -/
def readItems : Nat → Reader (List Json)
  | 0, _ => .error .ended
  | fuel + 1, cs =>
    match readValue fuel cs with
    | .error f => .error f
    | .ok (v, rest) =>
      match follow ']' rest with
      | .fault f => .error f
      | .close rest => .ok ([v], rest)
      | .more rest => (readItems fuel rest).map fun (items, rest) => (v :: items, rest)

/-- Reads the members of an object up to its closing bracket. -/
def readMembers : Nat → Reader (List (String × Json))
  | 0, _ => .error .ended
  | fuel + 1, cs =>
    match openName cs with
    | .error f => .error f
    | .ok rest =>
      match stringBody rest with
      | .error f => .error f
      | .ok (name, rest) =>
        match colon rest with
        | .error f => .error f
        | .ok rest =>
          match readValue fuel rest with
          | .error f => .error f
          | .ok (v, rest) =>
            match follow '}' rest with
            | .fault f => .error f
            | .close rest => .ok ([(String.ofList name, v)], rest)
            | .more rest =>
              (readMembers fuel rest).map fun (members, rest) =>
                ((String.ofList name, v) :: members, rest)

end

mutual

/-- Passes over a value. -/
def passValue : Nat → List Char → Except Fault (List Char)
  | 0, _ => .error .ended
  | fuel + 1, cs =>
    match skipBlanks cs with
    | [] => .error .ended
    | 'n' :: rest => word "ull".toList rest
    | 't' :: rest => word "rue".toList rest
    | 'f' :: rest => word "alse".toList rest
    | '"' :: rest => passString rest
    | '[' :: rest =>
      match skipBlanks rest with
      | ']' :: rest => .ok rest
      | rest => passItems fuel rest
    | '{' :: rest =>
      match skipBlanks rest with
      | '}' :: rest => .ok rest
      | rest => passMembers fuel rest
    | c :: rest =>
      if c = '-' ∨ c.isDigit then passNumber (c :: rest)
      else .error .malformed

/-- Passes over the items of an array and its closing bracket. -/
def passItems : Nat → List Char → Except Fault (List Char)
  | 0, _ => .error .ended
  | fuel + 1, cs =>
    match passValue fuel cs with
    | .error f => .error f
    | .ok rest =>
      match follow ']' rest with
      | .fault f => .error f
      | .close rest => .ok rest
      | .more rest => passItems fuel rest

/-- Passes over the members of an object and its closing bracket. -/
def passMembers : Nat → List Char → Except Fault (List Char)
  | 0, _ => .error .ended
  | fuel + 1, cs =>
    match openName cs with
    | .error f => .error f
    | .ok rest =>
      match passString rest with
      | .error f => .error f
      | .ok rest =>
        match colon rest with
        | .error f => .error f
        | .ok rest =>
          match passValue fuel rest with
          | .error f => .error f
          | .ok rest =>
            match follow '}' rest with
            | .fault f => .error f
            | .close rest => .ok rest
            | .more rest => passMembers fuel rest

end

/-- How many steps are enough for a text. -/
def stepsFor (cs : List Char) : Nat := 2 * cs.length + 1

/-- Any value. -/
def value : Reader Json := fun cs => readValue (stepsFor cs) cs

/-- The text after any value. -/
def passOver (cs : List Char) : Except Fault (List Char) := passValue (stepsFor cs) cs

/-- Reads one thing that must take up a whole text but for blanks. -/
def readWhole {α : Type} (read : Reader α) (cs : List Char) : Except Fault α :=
  match read cs with
  | .error f => .error f
  | .ok (a, rest) => if skipBlanks rest = [] then .ok a else .error .malformed

/-- The value that a whole text stands for. -/
def ofText (s : String) : Except Fault Json :=
  readWhole value s.toList

end Json

end Arcade
