import Arcade.Log.Journal
import Arcade.Processor
import Arcade.Text.Hex

/-!
# `Arcade.Notice` — what the board has to say about itself

Whatever part of the board has something to report hands out a `Notice`; its category, level and
wording are settled here.

## Contents
- `Notice`, with `category`, `level`, `message`.
- `Journal.note`, `Journal.noteAll`: writes notices to a journal.
-/

namespace Arcade

/-- Something worth a line in the log. -/
inductive Notice
  /-- The machine was put together. -/
  | powerOn (name description : String) (year : Nat)
  /-- A processor was reset. -/
  | processorReset (p : Processor)
  /-- A processor took its start address from the vector. -/
  | vectorFetched (name : String) (pc : UInt16)
  | unmappedRead (p : Processor) (pc address : UInt16)
  | unmappedWrite (p : Processor) (pc address : UInt16) (data : UInt8)
  | romWrite (p : Processor) (pc address : UInt16) (data : UInt8)
  /-- A processor's interrupt was enabled or disabled. -/
  | interruptSwitched (p : Processor) (on : Bool)
  /-- The reset line of the I/O chips changed. -/
  | chipResetSwitched (pc : UInt16) (release : Bool)
  /-- One I/O chip went into reset or out of it. -/
  | chipReset (label : String) (asserted : Bool)
  | chipWriteInReset (label : String) (data : UInt8) (port : Nat)
  | missingPortRead (label : String) (port : Nat)
  | missingPortWrite (label : String) (port : Nat)
  | emptySlotRead (slot register : Nat)
  | emptySlotWrite (slot register : Nat) (data : UInt8)
  | watchdogExpired (p : Processor) (period : UInt32)
  | checksumMismatch (chip : String) (actual expected : UInt32)
  deriving Repr, DecidableEq

namespace Notice

/-- What a notice is about. -/
def category : Notice → Category
  | .powerOn .. => .processor
  | .processorReset _ => .processor
  | .vectorFetched .. => .processor
  | .unmappedRead .. => .bus
  | .unmappedWrite .. => .bus
  | .romWrite .. => .bus
  | .interruptSwitched .. => .interrupts
  | .chipResetSwitched .. => .ioChip
  | .chipReset .. => .ioChip
  | .chipWriteInReset .. => .ioChip
  | .missingPortRead .. => .ioChip
  | .missingPortWrite .. => .ioChip
  | .emptySlotRead .. => .stubs
  | .emptySlotWrite .. => .stubs
  | .watchdogExpired .. => .watchdog
  | .checksumMismatch .. => .stubs

/-- How loud a notice is. -/
def level : Notice → Level
  | .powerOn .. => .info
  | .processorReset _ => .debug
  | .vectorFetched .. => .debug
  | .unmappedRead .. => .warn
  | .unmappedWrite .. => .warn
  | .romWrite .. => .warn
  | .interruptSwitched .. => .debug
  | .chipResetSwitched .. => .debug
  | .chipReset .. => .debug
  | .chipWriteInReset .. => .debug
  | .missingPortRead .. => .warn
  | .missingPortWrite .. => .warn
  | .emptySlotRead .. => .trace
  | .emptySlotWrite .. => .trace
  | .watchdogExpired .. => .warn
  | .checksumMismatch .. => .warn

/-- The wording of a notice. -/
def message : Notice → String
  | .powerOn name description year => s!"{name}: {description} ({year})"
  | .processorReset p => s!"{p.name}: reset"
  | .vectorFetched name pc => s!"{name}: reset vector {Hex.address pc}"
  | .unmappedRead p pc a => s!"{p.name} @{Hex.address pc}: unmapped read {Hex.address a}"
  | .unmappedWrite p pc a d =>
    s!"{p.name} @{Hex.address pc}: unmapped write {Hex.address a} <- {Hex.byte d}"
  | .romWrite p pc a d =>
    s!"{p.name} @{Hex.address pc}: write to ROM {Hex.address a} <- {Hex.byte d}"
  | .interruptSwitched p on => p.name ++ ": irq " ++ if on then "enabled" else "disabled"
  | .chipResetSwitched pc release =>
    Hex.address pc ++ ": freset " ++ if release then "1" else "0"
  | .chipReset label asserted => label ++ ": reset " ++ if asserted then "asserted" else "released"
  | .chipWriteInReset label d port =>
    s!"{label}: write {Hex.byte d} to port {port} while in reset"
  | .missingPortRead label port => s!"{label}: read of nonexistent port {port}"
  | .missingPortWrite label port => s!"{label}: write to nonexistent port {port}"
  | .emptySlotRead slot r => s!"I/O slot {slot} read, register {Hex.upper 1 r}"
  | .emptySlotWrite slot r d =>
    s!"I/O slot {slot} write, register {Hex.upper 1 r} <- {Hex.byte d}"
  | .watchdogExpired p period =>
    s!"{p.name} watchdog not serviced for {period.toNat} frames, resetting"
  | .checksumMismatch chip actual expected =>
    s!"{chip}: CRC {Hex.checksum actual} does not match expected {Hex.checksum expected}"

end Notice

namespace Journal

/-- Writes a notice if it is wanted. -/
def note (j : Journal) (n : Notice) : Journal :=
  (j.record n.category n.level fun _ => n.message).2

/-- Writes several notices in order. -/
def noteAll (j : Journal) (ns : List Notice) : Journal := ns.foldl note j

@[simp] theorem noteAll_nil (j : Journal) : j.noteAll [] = j := rfl

end Journal

end Arcade
