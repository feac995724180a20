/-!
# `Arcade.Processor` — the three processors of the board

The board carries a main, a sub and a sound processor. Much of its state exists once for each of
them, so `PerProcessor α` holds one `α` per processor and is read and changed by name.

## Contents
- `Processor`, its list `Processor.all` and its printed `Processor.name`.
- `PerProcessor` with `get`, `set`, `modify`, `map` and the laws that tie `get` to `set`.
-/

namespace Arcade

/-- One of the three processors of the board. -/
inductive Processor
  | main
  | sub
  | sound
  deriving DecidableEq, Repr, Inhabited

namespace Processor

/-- The processors in the order in which they take their turns. -/
def all : List Processor := [.main, .sub, .sound]

/-- The name under which a processor appears in messages. -/
def name : Processor → String
  | .main => "main"
  | .sub => "sub"
  | .sound => "sound"

theorem mem_all (p : Processor) : p ∈ all := by cases p <;> decide

/-- The size in bytes of a processor's program ROM: three chips for main and sub, one for sound. -/
def romSize : Processor → Nat
  | .main => 0x6000
  | .sub => 0x6000
  | .sound => 0x2000

end Processor

/-- One value for each processor. -/
structure PerProcessor (α : Type) where
  main : α
  sub : α
  sound : α
  deriving DecidableEq, Repr, Inhabited

namespace PerProcessor

variable {α β : Type}

/-- The same value for every processor. -/
def replicate (a : α) : PerProcessor α := ⟨a, a, a⟩

/-- The value a function gives each processor. -/
def tabulate (f : Processor → α) : PerProcessor α := ⟨f .main, f .sub, f .sound⟩

/-- The value of one processor. -/
def get (t : PerProcessor α) : Processor → α
  | .main => t.main
  | .sub => t.sub
  | .sound => t.sound

/-- Changes the value of one processor. -/
def modify (t : PerProcessor α) (p : Processor) (f : α → α) : PerProcessor α :=
  match p, t with
  | .main, ⟨m, s, d⟩ => ⟨f m, s, d⟩
  | .sub, ⟨m, s, d⟩ => ⟨m, f s, d⟩
  | .sound, ⟨m, s, d⟩ => ⟨m, s, f d⟩

/-- Replaces the value of one processor. -/
def set (t : PerProcessor α) (p : Processor) (a : α) : PerProcessor α :=
  t.modify p fun _ => a

/-- Applies a function to the value of every processor. -/
def map (f : α → β) (t : PerProcessor α) : PerProcessor β := ⟨f t.main, f t.sub, f t.sound⟩

/-- The values in the order of `Processor.all`. -/
def toList (t : PerProcessor α) : List α := [t.main, t.sub, t.sound]

@[simp] theorem get_replicate (a : α) (p : Processor) : (replicate a).get p = a := by
  cases p <;> rfl

@[simp] theorem get_tabulate (f : Processor → α) (p : Processor) : (tabulate f).get p = f p := by
  cases p <;> rfl

@[simp] theorem get_map (f : α → β) (t : PerProcessor α) (p : Processor) :
    (t.map f).get p = f (t.get p) := by
  cases p <;> rfl

theorem get_modify (t : PerProcessor α) (p q : Processor) (f : α → α) :
    (t.modify p f).get q = if p = q then f (t.get q) else t.get q := by
  cases p <;> cases q <;> rfl

@[simp] theorem get_modify_self (t : PerProcessor α) (p : Processor) (f : α → α) :
    (t.modify p f).get p = f (t.get p) := by
  cases p <;> rfl

theorem get_set (t : PerProcessor α) (p q : Processor) (a : α) :
    (t.set p a).get q = if p = q then a else t.get q := by
  cases p <;> cases q <;> rfl

@[simp] theorem get_set_self (t : PerProcessor α) (p : Processor) (a : α) :
    (t.set p a).get p = a := by
  cases p <;> rfl

/-- **Extensionality by processor.** Two triples with the same value for every processor agree. -/
theorem ext_get {t u : PerProcessor α} (h : ∀ p, t.get p = u.get p) : t = u := by
  cases t; cases u
  have hm := h .main
  have hs := h .sub
  have hd := h .sound
  simp only [get] at hm hs hd
  simp [hm, hs, hd]

end PerProcessor

end Arcade
