/-!
# `Arcade.Pair` — two values of one kind

The board has two chip slots, two lamps and two coin counters. `Pair α` holds one `α` for each and
is indexed by `Fin 2`.

## Contents
- `Pair` with `get`, `set`, `modify`, `map`, `swap` and the laws that tie `get` to `set`.
-/

namespace Arcade

/-- Two values of one kind. -/
structure Pair (α : Type) where
  fst : α
  snd : α
  deriving DecidableEq, Repr, Inhabited

namespace Pair

variable {α β : Type}

/-- The same value twice. -/
def replicate (a : α) : Pair α := ⟨a, a⟩

/-- The value at an index. -/
def get (t : Pair α) : Fin 2 → α
  | 0 => t.fst
  | 1 => t.snd

/-- The value at a number, if there is one. -/
def get? (t : Pair α) : Nat → Option α
  | 0 => some t.fst
  | 1 => some t.snd
  | _ => none

/-- Changes the value at an index. -/
def modify (t : Pair α) (i : Fin 2) (f : α → α) : Pair α :=
  match i, t with
  | 0, ⟨a, b⟩ => ⟨f a, b⟩
  | 1, ⟨a, b⟩ => ⟨a, f b⟩

/-- Replaces the value at an index. -/
def set (t : Pair α) (i : Fin 2) (a : α) : Pair α := t.modify i fun _ => a

/-- Applies a function to both values. -/
def map (f : α → β) (t : Pair α) : Pair β := ⟨f t.fst, f t.snd⟩

/-- Combines two pairs value by value. -/
def zipWith {γ : Type} (f : α → β → γ) (t : Pair α) (u : Pair β) : Pair γ :=
  ⟨f t.fst u.fst, f t.snd u.snd⟩

/-- The two values exchanged. -/
def swap (t : Pair α) : Pair α := ⟨t.snd, t.fst⟩

/-- The two values in order. -/
def toList (t : Pair α) : List α := [t.fst, t.snd]

theorem get_modify (t : Pair α) (i j : Fin 2) (f : α → α) :
    (t.modify i f).get j = if i = j then f (t.get j) else t.get j := by
  match i, j with
  | 0, 0 => rfl
  | 0, 1 => rfl
  | 1, 0 => rfl
  | 1, 1 => rfl

@[simp] theorem get_set_self (t : Pair α) (i : Fin 2) (a : α) : (t.set i a).get i = a := by
  match i with
  | 0 => rfl
  | 1 => rfl

@[simp] theorem set_get (t : Pair α) (i : Fin 2) : t.set i (t.get i) = t := by
  match i with
  | 0 => rfl
  | 1 => rfl

theorem get_set_of_ne (t : Pair α) {i j : Fin 2} (a : α) (h : i ≠ j) : (t.set i a).get j = t.get j :=
  (t.get_modify i j _).trans (if_neg h)

@[simp] theorem get_map (f : α → β) (t : Pair α) (i : Fin 2) : (t.map f).get i = f (t.get i) := by
  match i with
  | 0 => rfl
  | 1 => rfl

theorem get?_eq_some_get (t : Pair α) (i : Fin 2) : t.get? i.val = some (t.get i) := by
  match i with
  | 0 => rfl
  | 1 => rfl

@[simp] theorem swap_swap (t : Pair α) : t.swap.swap = t := rfl

end Pair

end Arcade
