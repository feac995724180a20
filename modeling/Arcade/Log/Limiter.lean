/-!
# `Arcade.Log.Limiter` — how many messages pass within one second

A category may pass a limited number of messages within a second; the ones beyond are dropped and
counted. The count of dropped messages is reported at once if there was no report within the last
second, and otherwise with the next message that passes; a report starts the count again.

## Contents
- `Instant`: what a clock shows.
- `Window`: what one category has passed and dropped.
- `Window.offer`: decides on one message.
-/

namespace Arcade

/-- What a clock shows, in nanoseconds. A clock does not go back. -/
abbrev Instant := Nat

/-- What a category has passed and dropped. -/
structure Window where
  /-- When messages passed, the earliest first, as far back as it matters. -/
  stamps : List Instant
  /-- How many messages were dropped since the last report. -/
  dropped : UInt64
  /-- When the last report was, if there was one. -/
  lastReport : Option Instant
  deriving DecidableEq, Repr, Inhabited

/-- The decision on a message. -/
structure Decision where
  /-- Whether the message passes. -/
  passes : Bool
  /-- The number of dropped messages to report in front of it, if a report is due. -/
  report : Option UInt64
  deriving DecidableEq, Repr

namespace Window

/-- The nanoseconds of a second. -/
def second : Nat := 1000000000

/-- A window in which nothing has happened yet. -/
def empty : Window := ⟨[], 0, none⟩

/-- Whether a message that passed then passed more than a second ago. -/
def isOld (now stamp : Instant) : Bool := second < now - stamp

/-- Whether the last report, if there was one, was a second ago. -/
def isReportDue (now : Instant) (w : Window) : Bool := w.lastReport.all fun last => second ≤ now - last

/-- Forgets the messages at the front that passed more than a second ago. -/
def forget (now : Instant) (w : Window) : Window := { w with stamps := w.stamps.dropWhile (isOld now) }

/-- Decides on one more message under a limit. -/
def offer (now : Instant) (limit : UInt64) (w : Window) : Decision × Window :=
  let w := w.forget now
  if w.stamps.length < limit.toNat then
    let w := { w with stamps := w.stamps ++ [now] }
    if 0 < w.dropped then
      (⟨true, some w.dropped⟩, { w with dropped := 0, lastReport := some now })
    else (⟨true, none⟩, w)
  else
    let w := { w with dropped := w.dropped + 1 }
    if w.isReportDue now then
      (⟨false, some w.dropped⟩, { w with dropped := 0, lastReport := some now })
    else (⟨false, none⟩, w)

end Window

end Arcade
