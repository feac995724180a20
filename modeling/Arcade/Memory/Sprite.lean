/-!
# `Arcade.Memory.Sprite` — sprites and the tables that describe them

A sprite is described by two bytes in each of three tables: its shape, its place, and its
attributes.

## Contents
- `Sprite`, `Sprite.decode` from six bytes, `Sprite.decodeAll` from three tables.
-/

namespace Arcade

/-- A sprite as the video hardware sees it. -/
structure Sprite where
  enabled : Bool
  code : UInt16
  color : UInt8
  x : UInt16
  y : UInt8
  flipX : Bool
  flipY : Bool
  wide : Bool
  tall : Bool
  duplicate : Bool
  deriving DecidableEq, Repr

namespace Sprite

/-- The number of sprites. -/
def count : Nat := 64

/-- The sprite that two bytes of each table describe. -/
def decode (code color y x flags area : UInt8) : Sprite :=
  { enabled := area &&& 0x02 = 0
    code := code.toUInt16 ||| ((flags &&& 0x40).toUInt16 <<< 2)
    color := color &&& 0x3F
    x := x.toUInt16 + 0x100 * (area &&& 0x01).toUInt16
    y := y
    flipX := flags &&& 0x01 ≠ 0
    flipY := flags &&& 0x02 ≠ 0
    wide := flags &&& 0x08 ≠ 0
    tall := flags &&& 0x20 ≠ 0
    duplicate := flags &&& 0x80 ≠ 0 }

/-- Decodes a number of sprites from the heads of the tables. Bytes that a table lacks count as
zero. -/
def decodeFrom : Nat → List UInt8 → List UInt8 → List UInt8 → List Sprite
  | 0, _, _, _ => []
  | n + 1, t, u, v =>
    decode (t.getD 0 0) (t.getD 1 0) (u.getD 0 0) (u.getD 1 0) (v.getD 0 0) (v.getD 1 0) ::
      decodeFrom n (t.drop 2) (u.drop 2) (v.drop 2)

/-- The sprites that three tables describe. -/
def decodeAll (shapes places attributes : List UInt8) : List Sprite :=
  decodeFrom count shapes places attributes

/-- The sprite that zeros describe. -/
def blank : Sprite := decode 0 0 0 0 0 0

theorem length_decodeFrom (n : Nat) (t u v : List UInt8) : (decodeFrom n t u v).length = n := by
  induction n generalizing t u v with
  | zero => rfl
  | succ n ih => simp [decodeFrom, ih]

theorem length_decodeAll (t u v : List UInt8) : (decodeAll t u v).length = count :=
  length_decodeFrom count t u v

end Sprite

end Arcade
