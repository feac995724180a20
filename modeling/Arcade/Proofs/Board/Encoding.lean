import Arcade.Board.State
import Arcade.Proofs.Json.Record

/-!
# `Arcade.Proofs.Board.Encoding` — the saved state of a board is read back as it was

Each part of a saved state is read back as it was written, from the latches to the whole. Nothing is
asked of the state: every value of the type is read back, images with wrong tags or sizes included, so
whether a state fits a board is decided by the board and not by the encoding.

A record with numbers in it is dealt with in two steps: that it is read if its members are, whatever
they are (`ofJson?_of_fields`), and that its members are. In one step the kernel would compute with
bounds of 32 and 64 bits.

## Contents
- A `reads` lemma for each part, in the order in which they are composed.
- `BoardState.reads`.
-/

namespace Arcade

/-! ## Lists -/

theorem Json.reads_bytes : Json.Reads Json.asBytes? Json.ofBytes := Json.reads_uint8.items

theorem Json.reads_bools : Json.Reads Json.asBools? Json.ofBools := by
  intro p
  have hitems : (Json.ofBools p).exactly? 2 Json.asBool? = some [p.fst, p.snd] :=
    Json.reads_bool.exactly (l := p.toList) rfl
  unfold Json.asBools?
  rw [hitems]
  rfl

/-! ## Control registers -/

theorem InterruptLatch.reads : Json.Reads InterruptLatch.ofJson? InterruptLatch.toJson := by
  intro l
  have hfields : l.toJson.fields? ["enabled", "line"] =
      some [some (.bool l.enabled), some (.bool l.line)] :=
    Json.fields?_object [_, _] (by decide) rfl
  unfold InterruptLatch.ofJson?
  rw [hfields]
  rfl

theorem Controls.reads : Json.Reads Controls.ofJson? Controls.toJson := by
  intro c
  have hfields : c.toJson.fields? ["latches", "secondaries_held", "io_held", "sound_enabled"] =
      some [some (.array (c.latches.toList.map InterruptLatch.toJson)),
        some (.bool c.secondariesHeld), some (.bool c.chipsHeld), some (.bool c.soundOn)] :=
    Json.fields?_object [_, _, _, _] (by decide) rfl
  have hlatches : (Json.array (c.latches.toList.map InterruptLatch.toJson)).exactly? 3
      InterruptLatch.ofJson? = some [c.latches.main, c.latches.sub, c.latches.sound] :=
    InterruptLatch.reads.exactly (l := c.latches.toList) rfl
  unfold Controls.ofJson?
  rw [hfields]
  simp only [Option.bind_eq_bind, Option.bind_some, hlatches]
  rfl

/-! ## Watchdogs and counts -/

theorem Watchdog.ofJson?_of_fields {w : Watchdog} {v period elapsed serviced expirations : Json}
    (hv : v.fields? ["period", "elapsed", "serviced", "expirations"] =
      some [some period, some elapsed, some serviced, some expirations])
    (hperiod : period.asUInt32? = some w.period) (helapsed : elapsed.asUInt32? = some w.elapsed)
    (hserviced : serviced.asBool? = some w.serviced)
    (hexpirations : expirations.asUInt64? = some w.expirations) : Watchdog.ofJson? v = some w := by
  unfold Watchdog.ofJson?
  simp only [hv, Option.bind_eq_bind, Option.bind_some, hperiod, helapsed, hserviced, hexpirations]
  rfl

theorem Watchdog.reads : Json.Reads Watchdog.ofJson? Watchdog.toJson := fun w =>
  ofJson?_of_fields (Json.fields?_object [_, _, _, _] (by decide) rfl)
    (Json.reads_uint32 w.period) (Json.reads_uint32 w.elapsed) (Json.reads_bool w.serviced)
    (Json.reads_uint64 w.expirations)

theorem Diagnostics.ofJson?_of_fields {d : Diagnostics} {v reads writes romWrites resets : Json}
    (hv : v.fields? ["unmapped_reads", "unmapped_writes", "rom_writes", "watchdog_resets"] =
      some [some reads, some writes, some romWrites, some resets])
    (hreads : reads.asUInt64? = some d.unmappedReads)
    (hwrites : writes.asUInt64? = some d.unmappedWrites)
    (hromWrites : romWrites.asUInt64? = some d.romWrites)
    (hresets : resets.asUInt64? = some d.watchdogResets) : Diagnostics.ofJson? v = some d := by
  unfold Diagnostics.ofJson?
  simp only [hv, Option.bind_eq_bind, Option.bind_some, hreads, hwrites, hromWrites, hresets]
  rfl

theorem Diagnostics.reads : Json.Reads Diagnostics.ofJson? Diagnostics.toJson := fun d =>
  ofJson?_of_fields (Json.fields?_object [_, _, _, _] (by decide) rfl)
    (Json.reads_uint64 d.unmappedReads) (Json.reads_uint64 d.unmappedWrites)
    (Json.reads_uint64 d.romWrites) (Json.reads_uint64 d.watchdogResets)

/-! ## Chips, inputs and outputs -/

theorem ChipState.ofJson?_of_fields {s : ChipState} {v reset irqLine pulses : Json}
    (hv : v.fields? ["reset", "irq_line", "pulses"] = some [some reset, some irqLine, some pulses])
    (hreset : reset.asBool? = some s.reset) (hirqLine : irqLine.asBool? = some s.irqLine)
    (hpulses : pulses.asUInt64? = some s.pulses) : ChipState.ofJson? v = some s := by
  unfold ChipState.ofJson?
  simp only [hv, Option.bind_eq_bind, Option.bind_some, hreset, hirqLine, hpulses]
  rfl

theorem ChipState.reads : Json.Reads ChipState.ofJson? ChipState.toJson := fun s =>
  ofJson?_of_fields (Json.fields?_object [_, _, _] (by decide) rfl)
    (Json.reads_bool s.reset) (Json.reads_bool s.irqLine) (Json.reads_uint64 s.pulses)

theorem ChipState.reads_pair : Json.Reads ChipState.pairOfJson? ChipState.pairToJson := by
  intro p
  have hitems : (ChipState.pairToJson p).exactly? 2 ChipState.ofJson? = some [p.fst, p.snd] :=
    ChipState.reads.exactly (l := p.toList) rfl
  unfold ChipState.pairOfJson?
  rw [hitems]
  rfl

theorem Inputs.ofJson?_of_fields {i : Inputs} {v bytes : Json}
    (hv : v.fields? ["bytes"] = some [some bytes]) (hbytes : bytes.asBytes? = some i.toList) :
    Inputs.ofJson? v = some i := by
  unfold Inputs.ofJson?
  simp only [hv, Option.bind_eq_bind, Option.bind_some, hbytes]
  exact i.ofList?_toList

theorem Inputs.reads : Json.Reads Inputs.ofJson? Inputs.toJson := fun i =>
  ofJson?_of_fields (Json.fields?_object [_] (by decide) rfl) (Json.reads_bytes i.toList)

theorem Outputs.ofJson?_of_fields {o : Outputs} {v lamps lockout counters levels : Json}
    (hv : v.fields? ["lamps", "coin_lockout", "coin_counters", "counter_inputs"] =
      some [some lamps, some lockout, some counters, some levels])
    (hlamps : lamps.asBools? = some o.lamps) (hlockout : lockout.asBool? = some o.coinLockout)
    (hcounters : counters.exactly? 2 Json.asUInt32? = some o.coinCounters.toList)
    (hlevels : levels.asBools? = some o.counterInputs) : Outputs.ofJson? v = some o := by
  unfold Outputs.ofJson?
  simp only [hv, Option.bind_eq_bind, Option.bind_some, hcounters, Pair.toList, hlamps, hlockout,
    hlevels]
  rfl

theorem Outputs.reads : Json.Reads Outputs.ofJson? Outputs.toJson := fun o =>
  ofJson?_of_fields (Json.fields?_object [_, _, _, _] (by decide) rfl)
    (Json.reads_bools o.lamps) (Json.reads_bool o.coinLockout)
    (Json.reads_uint32.exactly (l := o.coinCounters.toList) rfl) (Json.reads_bools o.counterInputs)

/-! ## Memories -/

theorem Region.reads : Json.Reads (Json.choice? Region.byTag) fun r => .string r.tag :=
  Region.lookup_tag

theorem MemoryImage.ofJson?_of_fields {i : MemoryImage} {v region bytes : Json}
    (hv : v.fields? ["region", "bytes"] = some [some region, some bytes])
    (hregion : region.choice? Region.byTag = some i.region)
    (hbytes : bytes.asBytes? = some i.bytes) : MemoryImage.ofJson? v = some i := by
  unfold MemoryImage.ofJson?
  simp only [hv, Option.bind_eq_bind, Option.bind_some, hregion, hbytes]
  rfl

theorem MemoryImage.reads : Json.Reads MemoryImage.ofJson? MemoryImage.toJson := fun i =>
  ofJson?_of_fields (Json.fields?_object [_, _] (by decide) rfl) (Region.reads i.region)
    (Json.reads_bytes i.bytes)

theorem MemoryImages.ofJson?_of_fields {m : MemoryImages} {v tilemap work sound : Json}
    (hv : v.fields? ["tilemap", "work", "sound"] = some [some tilemap, some work, some sound])
    (htilemap : MemoryImage.ofJson? tilemap = some m.tilemap)
    (hwork : MemoryImage.ofJson? work = some m.work)
    (hsound : MemoryImage.ofJson? sound = some m.sound) : MemoryImages.ofJson? v = some m := by
  unfold MemoryImages.ofJson?
  simp only [hv, Option.bind_eq_bind, Option.bind_some, htilemap, hwork, hsound]
  rfl

theorem MemoryImages.reads : Json.Reads MemoryImages.ofJson? MemoryImages.toJson := fun m =>
  ofJson?_of_fields (Json.fields?_object [_, _, _] (by decide) rfl)
    (MemoryImage.reads m.tilemap) (MemoryImage.reads m.work) (MemoryImage.reads m.sound)

/-! ## The whole state -/

namespace BoardState

theorem starfieldOf?_toList (v : Vector UInt8 4) : starfieldOf? v.toList = some v := by
  obtain ⟨⟨l⟩, hl⟩ := v
  match l, hl with
  | [a, b, c, d], _ => rfl

theorem ofJson?_of_fields {s : BoardState} {v memory controls chips inputs outputs mainWatchdog
      soundWatchdog starfield pending diagnostics : Json}
    (hv : v.fields? fieldNames =
      some [some memory, some controls, some chips, some inputs, some outputs, some mainWatchdog,
        some soundWatchdog, some starfield, some pending, some diagnostics])
    (hmemory : MemoryImages.ofJson? memory = some s.memory)
    (hcontrols : Controls.ofJson? controls = some s.controls)
    (hchips : ChipState.pairOfJson? chips = some s.chips)
    (hinputs : Inputs.ofJson? inputs = some s.inputs)
    (houtputs : Outputs.ofJson? outputs = some s.outputs)
    (hmain : Watchdog.ofJson? mainWatchdog = some s.mainWatchdog)
    (hsound : Watchdog.ofJson? soundWatchdog = some s.soundWatchdog)
    (hstarfield : starfield.asBytes? = some s.starfield.toList)
    (hpending : pending.exactly? 3 Json.asBool? = some s.pendingReset.toList)
    (hdiagnostics : Diagnostics.ofJson? diagnostics = some s.diagnostics) : ofJson? v = some s := by
  unfold ofJson?
  simp only [hv, Option.bind_eq_bind, Option.bind_some, hpending, PerProcessor.toList, hmemory,
    hcontrols, hchips, hinputs, houtputs, hmain, hsound, hstarfield, starfieldOf?_toList, hdiagnostics]
  rfl

/-- **The saved state of a board is read back as it was.** -/
theorem reads : Json.Reads ofJson? toJson := fun s =>
  ofJson?_of_fields (Json.fields?_object [_, _, _, _, _, _, _, _, _, _] (by decide) rfl)
    (MemoryImages.reads s.memory) (Controls.reads s.controls) (ChipState.reads_pair s.chips)
    (Inputs.reads s.inputs) (Outputs.reads s.outputs) (Watchdog.reads s.mainWatchdog)
    (Watchdog.reads s.soundWatchdog) (Json.reads_bytes s.starfield.toList)
    (Json.reads_bool.exactly (l := s.pendingReset.toList) rfl) (Diagnostics.reads s.diagnostics)

end BoardState

end Arcade
