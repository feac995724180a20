import Arcade.Log.Level
import Arcade.Log.Limiter

/-!
# `Arcade.Log.Journal` — the log of a running board

A journal holds the levels up to which messages are wanted, overall and by category, the limit on
messages, and the lines written so far. A category whose own level is not off decides for itself;
otherwise the overall level decides. The text of a message is only made for one that is written.
The journal goes by a clock that its surroundings move on.

## Contents
- `Journal`, its settings, `Journal.wants`.
- `Journal.wait`: lets time pass.
- `Journal.record`: writes a message or drops it.
- `Journal.takeLines`.
-/

namespace Arcade

/-- The settings of a log and the lines written to it. -/
structure Journal where
  overall : Level
  levels : PerCategory Level
  limit : UInt64
  windows : PerCategory Window
  /-- What the clock shows. -/
  clock : Instant
  /-- The lines, the latest first. -/
  lines : List String
  deriving Repr

namespace Journal

/-- How many messages a category may pass within a second unless told otherwise. -/
def defaultLimit : UInt64 := 60

/-- A journal that wants nothing. -/
def silent : Journal :=
  { overall := .off
    levels := .replicate .off
    limit := defaultLimit
    windows := .replicate .empty
    clock := 0
    lines := [] }

/-- Switches every level off. The limit and what it has counted stay. -/
def reset (j : Journal) : Journal := { j with overall := .off, levels := .replicate .off }

/-- The clock moves on by some nanoseconds. -/
def wait (j : Journal) (time : Nat) : Journal := { j with clock := j.clock + time }

/-- The level that decides on messages of a category. -/
def threshold (j : Journal) (c : Category) : Level :=
  if j.levels.get c = .off then j.overall else j.levels.get c

/-- Whether messages of a category and level are wanted. -/
def wants (j : Journal) (c : Category) (level : Level) : Bool :=
  level ≠ .off && level.rank ≤ (j.threshold c).rank

/-- The line of a message. -/
def line (level : Level) (c : Category) (message : String) : String :=
  s!"{level.mark} {c.target} {message}"

/-- The line that reports dropped messages. -/
def reportLine (c : Category) (n : UInt64) : String :=
  line .warn c s!"rate limit exceeded, {n} message(s) dropped in the last second"

/-- Offers a message. The result says whether it was written. -/
def record (j : Journal) (c : Category) (level : Level) (message : Unit → String) :
    Bool × Journal :=
  if j.wants c level then
    let (decision, window) := (j.windows.get c).offer j.clock j.limit
    let lines :=
      match decision.report with
      | some n => reportLine c n :: j.lines
      | none => j.lines
    let lines := if decision.passes then line level c (message ()) :: lines else lines
    (decision.passes, { j with windows := j.windows.set c window, lines := lines })
  else (false, j)

/-- The lines written so far in order, and the journal without them. -/
def takeLines (j : Journal) : List String × Journal := (j.lines.reverse, { j with lines := [] })

/-- A message that is not wanted changes nothing. -/
theorem record_of_not_wants {j : Journal} {c : Category} {level : Level}
    (h : j.wants c level = false) (message : Unit → String) :
    j.record c level message = (false, j) := by
  simp [record, h]

end Journal

end Arcade
