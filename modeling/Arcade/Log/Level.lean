import Arcade.Text.Case

/-!
# `Arcade.Log.Level` — how loud a message is, and what it is about

## Contents
- `Level`, its rank, its names and `Level.ofText`.
- `Category` and the target under which its messages are filed.
-/

namespace Arcade

/-- The loudness of a message, or the loudness up to which messages are let through. -/
inductive Level
  | off
  | error
  | warn
  | info
  | debug
  | trace
  deriving DecidableEq, Repr, Inhabited

namespace Level

/-- The rank of a level: a higher rank lets more through. -/
def rank : Level → Nat
  | .off => 0
  | .error => 1
  | .warn => 2
  | .info => 3
  | .debug => 4
  | .trace => 5

/-- The name of a level. -/
def name : Level → String
  | .off => "Off"
  | .error => "Error"
  | .warn => "Warn"
  | .info => "Info"
  | .debug => "Debug"
  | .trace => "Trace"

/-- The mark of a level in front of a line. -/
def mark : Level → String
  | .off => "OFF"
  | .error => "ERROR"
  | .warn => "WARN"
  | .info => "INFO"
  | .debug => "DEBUG"
  | .trace => "TRACE"

/-- The texts that name a level, in lower case. -/
def spellings : List (String × Level) :=
  [("off", .off), ("0", .off),
    ("error", .error), ("err", .error), ("1", .error),
    ("warn", .warn), ("warning", .warn), ("2", .warn),
    ("info", .info), ("3", .info),
    ("debug", .debug), ("4", .debug),
    ("trace", .trace), ("5", .trace)]

/-- The level a text names in any case. A text that names none is handed back in lower case. -/
def ofText (s : String) : Except String Level :=
  let s := Case.lower s
  match spellings.lookup s with
  | some level => .ok level
  | none => .error s

/-- The complaint about a text, given in lower case, that names no level. -/
def complaint (s : String) : String := s!"unknown log level '{s}'"

end Level

/-- What a message is about. -/
inductive Category
  | processor
  | bus
  | ioChip
  | interrupts
  | watchdog
  | stubs
  deriving DecidableEq, Repr, Inhabited

namespace Category

/-- Every category, in the order in which they are listed. -/
def all : List Category := [.processor, .bus, .ioChip, .interrupts, .watchdog, .stubs]

/-- The name of a category. -/
def name : Category → String
  | .processor => "CPU"
  | .bus => "Bus"
  | .ioChip => "IoChip"
  | .interrupts => "Interrupts"
  | .watchdog => "Watchdog"
  | .stubs => "Stubs"

/-- The target under which messages of a category are filed. -/
def target : Category → String
  | .processor => "emu::cpu"
  | .bus => "emu::bus"
  | .ioChip => "emu::io"
  | .interrupts => "emu::irq"
  | .watchdog => "emu::watchdog"
  | .stubs => "emu::stubs"

theorem mem_all (c : Category) : c ∈ all := by cases c <;> decide

end Category

/-- One value for each category. -/
structure PerCategory (α : Type) where
  processor : α
  bus : α
  ioChip : α
  interrupts : α
  watchdog : α
  stubs : α
  deriving DecidableEq, Repr

namespace PerCategory

variable {α : Type}

/-- The same value for every category. -/
def replicate (a : α) : PerCategory α := ⟨a, a, a, a, a, a⟩

/-- The value of one category. -/
def get (t : PerCategory α) : Category → α
  | .processor => t.processor
  | .bus => t.bus
  | .ioChip => t.ioChip
  | .interrupts => t.interrupts
  | .watchdog => t.watchdog
  | .stubs => t.stubs

/-- Replaces the value of one category. -/
def set (t : PerCategory α) (c : Category) (a : α) : PerCategory α :=
  match c with
  | .processor => { t with processor := a }
  | .bus => { t with bus := a }
  | .ioChip => { t with ioChip := a }
  | .interrupts => { t with interrupts := a }
  | .watchdog => { t with watchdog := a }
  | .stubs => { t with stubs := a }

@[simp] theorem get_replicate (a : α) (c : Category) : (replicate a).get c = a := by
  cases c <;> rfl

theorem get_set (t : PerCategory α) (c d : Category) (a : α) :
    (t.set c a).get d = if c = d then a else t.get d := by
  cases c <;> cases d <;> rfl

end PerCategory

end Arcade
