import Arcade.Json.Printer
import Arcade.Json.Record
import Arcade.Json.Typed
import Arcade.Revision

/-!
# `Arcade.Config` — what a machine is configured with

A configuration names a revision and may change how finely the processors take turns, how patient
the watchdogs are, how the switches are set and which chips are fitted. In a file every field may be
left out. Reading a file reports the first fault in reading order; only then is the configuration
checked.

## Contents
- `Config`, its default, `Config.check`.
- `Config.toJson`, `Config.render`; `Config.ofJson?` for values.
- `Config.Draft` and `Config.ofText` for files.
-/

namespace Arcade

/-- A configuration of a machine. -/
structure Config where
  revision : String
  /-- For how many cycles a processor has its turn. -/
  sliceCycles : UInt32
  /-- After how many frames without service a watchdog expires. -/
  watchdogFrames : UInt32
  /-- The first switch bank, if not as set at the factory. -/
  dipA : Option UInt8
  /-- The second switch bank, if not as set at the factory. -/
  dipB : Option UInt8
  /-- The fitted chips, if not those of the revision. -/
  layout : Option IoLayout
  deriving DecidableEq, Repr

/-- Why there is no machine for a configuration. -/
inductive ConfigProblem
  | unreadable (fault : Json.Fault)
  | zeroSlice
  | zeroWatchdog
  | unknownRevision (name : String)
  deriving DecidableEq, Repr

/-- The wording of a problem. -/
def ConfigProblem.message : ConfigProblem → String
  | .unreadable _ => "failed to parse config"
  | .zeroSlice => "slice_cycles must be at least 1"
  | .zeroWatchdog => "watchdog_frames must be at least 1"
  | .unknownRevision name => s!"unknown revision '{name}'"

namespace Config

/-- The configuration of a revision with nothing changed. -/
def ofRevision (name : String) : Config :=
  { revision := name, sliceCycles := 8, watchdogFrames := 8, dipA := none, dipB := none
    layout := none }

/-- The configuration that an empty file stands for. -/
def standard : Config := ofRevision "gaplus"

instance : Inhabited Config := ⟨standard⟩

/-- The revision of a configuration, or the first thing wrong with it. -/
def check (c : Config) : Except ConfigProblem Revision :=
  if c.sliceCycles = 0 then .error .zeroSlice
  else if c.watchdogFrames = 0 then .error .zeroWatchdog
  else
    match Revision.find? c.revision with
    | some r => .ok r
    | none => .error (.unknownRevision c.revision)

/-- The first switch bank in effect. -/
def dipAFor (c : Config) (r : Revision) : UInt8 := c.dipA.getD r.dips.defaultA

/-- The second switch bank in effect. -/
def dipBFor (c : Config) (r : Revision) : UInt8 := c.dipB.getD r.dips.defaultB

/-- The fitted chips in effect. -/
def layoutFor (c : Config) (r : Revision) : IoLayout := c.layout.getD r.io

end Config

/-! ## As JSON values -/

/-- A chip as a JSON value. -/
def ChipSpec.toJson (s : ChipSpec) : Json :=
  .object [("kind", .string s.kind.tag), ("part", .string s.part.label)]

/-- A chip from a JSON value. -/
def ChipSpec.ofJson? (v : Json) : Option ChipSpec := do
  let [some kind, some part] ← v.fields? ["kind", "part"] | none
  let kind ← kind.choice? ChipKind.byTag
  let part ← part.choice? ChipPart.byLabel
  pure { kind, part }

/-- A layout as a JSON value. -/
def IoLayout.toJson (l : IoLayout) : Json :=
  .object [("slots", .array [l.slots.fst.toJson, l.slots.snd.toJson]), ("lamps", .bool l.lamps)]

/-- A layout from a JSON value. -/
def IoLayout.ofJson? (v : Json) : Option IoLayout := do
  let [some slots, some lamps] ← v.fields? ["slots", "lamps"] | none
  let [first, second] ← slots.exactly? 2 ChipSpec.ofJson? | none
  let lamps ← lamps.asBool?
  pure { slots := ⟨first, second⟩, lamps }

namespace Config

/-- The names of the fields in order. -/
def fieldNames : List String :=
  ["revision", "slice_cycles", "watchdog_frames", "dsw_a", "dsw_b", "io_layout"]

/-- A value that may be absent. -/
def orNull {α : Type} (f : α → Json) : Option α → Json
  | none => .null
  | some a => f a

/-- A configuration as a JSON value. -/
def toJson (c : Config) : Json :=
  .object
    [("revision", .string c.revision),
      ("slice_cycles", .nat c.sliceCycles.toNat),
      ("watchdog_frames", .nat c.watchdogFrames.toNat),
      ("dsw_a", orNull (fun b => .nat b.toNat) c.dipA),
      ("dsw_b", orNull (fun b => .nat b.toNat) c.dipB),
      ("io_layout", orNull IoLayout.toJson c.layout)]

/-- A configuration as the text of a file. -/
def render (c : Config) : String := c.toJson.pretty

/-- A field of a value: what it stands for when it is left out, or what it is read as. -/
def fieldOr {α : Type} (absent : α) (read : Json → Option α) : Option Json → Option α
  | none => some absent
  | some v => read v

/-- Something that may be absent. -/
def nullable {α : Type} (read : Json → Option α) : Json → Option (Option α)
  | .null => some none
  | v => (read v).map some

/-- A configuration from a JSON value. -/
def ofJson? (v : Json) : Option Config := do
  let [revision, slice, watchdog, a, b, layout] ← v.fields? fieldNames | none
  pure
    { revision := ← fieldOr standard.revision Json.asString? revision
      sliceCycles := ← fieldOr standard.sliceCycles Json.asUInt32? slice
      watchdogFrames := ← fieldOr standard.watchdogFrames Json.asUInt32? watchdog
      dipA := ← fieldOr none (nullable Json.asUInt8?) a
      dipB := ← fieldOr none (nullable Json.asUInt8?) b
      layout := ← fieldOr none (nullable IoLayout.ofJson?) layout }

end Config

/-! ## As files -/

/-- The fields of a chip that have been read. -/
structure ChipSpec.Draft where
  kind : Option ChipKind
  part : Option ChipPart

/-- Reads a chip. -/
def ChipSpec.reader : Json.Reader ChipSpec := fun cs => do
  let fields : List (Json.Field ChipSpec.Draft) :=
    [ { name := "kind"
        present := fun d => d.kind.isSome
        read := fun d cs => do
          let (k, rest) ← Json.choice ChipKind.byTag cs
          pure ({ d with kind := some k }, rest) },
      { name := "part"
        present := fun d => d.part.isSome
        read := fun d cs => do
          let (p, rest) ← Json.choice ChipPart.byLabel cs
          pure ({ d with part := some p }, rest) } ]
  match ← Json.record fields ⟨none, none⟩ cs with
  | (⟨some kind, some part⟩, rest) => pure ({ kind, part }, rest)
  | _ => .error .mismatched

/-- The fields of a layout that have been read. -/
structure IoLayout.Draft where
  slots : Option (Pair ChipSpec)
  lamps : Option Bool

/-- Reads a layout. -/
def IoLayout.reader : Json.Reader IoLayout := fun cs => do
  let fields : List (Json.Field IoLayout.Draft) :=
    [ { name := "slots"
        present := fun d => d.slots.isSome
        read := fun d cs => do
          match ← Json.exactly 2 ChipSpec.reader cs with
          | ([first, second], rest) => pure ({ d with slots := some ⟨first, second⟩ }, rest)
          | _ => .error .mismatched },
      { name := "lamps"
        present := fun d => d.lamps.isSome
        read := fun d cs => do
          let (b, rest) ← Json.boolean cs
          pure ({ d with lamps := some b }, rest) } ]
  match ← Json.record fields ⟨none, none⟩ cs with
  | (⟨some slots, some lamps⟩, rest) => pure ({ slots, lamps }, rest)
  | _ => .error .mismatched

namespace Config

/-- The fields of a configuration that have been read. -/
structure Draft where
  revision : Option String
  sliceCycles : Option UInt32
  watchdogFrames : Option UInt32
  dipA : Option (Option UInt8)
  dipB : Option (Option UInt8)
  layout : Option (Option IoLayout)

/-- Nothing has been read. -/
def Draft.empty : Draft := ⟨none, none, none, none, none, none⟩

/-- The configuration with the default for every field that was not read. -/
def Draft.complete (d : Draft) : Config :=
  { revision := d.revision.getD standard.revision
    sliceCycles := d.sliceCycles.getD standard.sliceCycles
    watchdogFrames := d.watchdogFrames.getD standard.watchdogFrames
    dipA := d.dipA.getD none
    dipB := d.dipB.getD none
    layout := d.layout.getD none }

/-- A field that takes what a reader reads. -/
def Draft.field {α : Type} (name : String) (get : Draft → Option α) (put : Draft → α → Draft)
    (read : Json.Reader α) : Json.Field Draft :=
  { name := name
    present := fun d => (get d).isSome
    read := fun d cs => (read cs).map fun (a, rest) => (put d a, rest) }

/-- An integer of 32 bits. -/
def word : Json.Reader UInt32 := fun cs =>
  (Json.naturalBelow UInt32.size cs).map fun (n, rest) => (UInt32.ofNat n, rest)

/-- An integer of 8 bits. -/
def byte : Json.Reader UInt8 := fun cs =>
  (Json.naturalBelow UInt8.size cs).map fun (n, rest) => (UInt8.ofNat n, rest)

/-- The fields of a configuration in order. -/
def Draft.fields : List (Json.Field Draft) :=
  [ field "revision" Draft.revision (fun d a => { d with revision := some a }) Json.text,
    field "slice_cycles" Draft.sliceCycles (fun d a => { d with sliceCycles := some a }) word,
    field "watchdog_frames" Draft.watchdogFrames
      (fun d a => { d with watchdogFrames := some a }) word,
    field "dsw_a" Draft.dipA (fun d a => { d with dipA := some a }) (Json.optional byte),
    field "dsw_b" Draft.dipB (fun d a => { d with dipB := some a }) (Json.optional byte),
    field "io_layout" Draft.layout (fun d a => { d with layout := some a })
      (Json.optional IoLayout.reader) ]

/-- Reads a configuration. -/
def reader : Json.Reader Config := fun cs =>
  (Json.record Draft.fields Draft.empty cs).map fun (d, rest) => (d.complete, rest)

/-- The configuration in the text of a file, if it is one for which there is a machine. -/
def ofText (s : String) : Except ConfigProblem Config :=
  match Json.readWhole reader s.toList with
  | .error f => .error (.unreadable f)
  | .ok c =>
    match c.check with
    | .error p => .error p
    | .ok _ => .ok c

end Config

end Arcade
