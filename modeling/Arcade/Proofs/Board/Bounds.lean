import Arcade.Proofs.Board.DataBus
import Arcade.Proofs.Board.Runs
import Arcade.Proofs.Memory.Windows

/-!
# `Arcade.Proofs.Board.Bounds` — no access is out of bounds

A board cannot hold a memory of the wrong size, and the decoder cannot name a byte that is not there: both
have it in their types. Whether that would be so without the types is another question, since saved states
come with images of any length, and programs with any number of bytes. So here the bytes of a board are
plain lists, addresses lead to plain numbers (`AddressMap.place`), and every access checks what it does and
may end in a fault: a byte that is not there, a stretch that is cut off, a copy between lists of different
lengths, a memory that the processor does not share.

Kept up alongside a board, from switching on and through whatever is done to it, the lists never fault, and
always hold the bytes of the board.

## Contents
- `AccessFault`, and the checked accesses `Bytes.fetch`, `Bytes.put`, `Bytes.slice`, `Bytes.overwrite`.
- `Contents` with `Contents.read`, `Contents.write`, `Contents.spriteTables`, `Contents.treat`.
- `Board.contents`, `Board.record`.
- `read_contents`, `write_contents`, `spriteTables_contents`, `treat_contents`: the checked accesses do what
  the board does.
- `Contents.Admits`: a place within bounds; `admits_contents`.
- `treated_contents`, `accesses_in_bounds`.
-/

namespace Arcade

open AddressMap

/-! ## Checked accesses -/

/-- What can go wrong with an access to bytes. -/
inductive AccessFault
  /-- A processor reaches for a memory that it does not share. -/
  | foreign (p : Processor) (r : Region)
  /-- There is no byte at an index. -/
  | beyond (index length : Nat)
  /-- A stretch of bytes goes on beyond the last one. -/
  | cut (start count length : Nat)
  /-- Bytes are to be copied over more bytes, or fewer. -/
  | unequal (count length : Nat)
  deriving DecidableEq

namespace Bytes

/-- The byte at an index. -/
def fetch (bytes : List UInt8) (index : Nat) : Except AccessFault UInt8 :=
  match bytes[index]? with
  | some v => .ok v
  | none => .error (.beyond index bytes.length)

/-- Replaces the byte at an index. -/
def put (bytes : List UInt8) (index : Nat) (v : UInt8) : Except AccessFault (List UInt8) :=
  if index < bytes.length then .ok (bytes.set index v) else .error (.beyond index bytes.length)

/-- A stretch of bytes. -/
def slice (bytes : List UInt8) (start count : Nat) : Except AccessFault (List UInt8) :=
  if start + count ≤ bytes.length then .ok ((bytes.drop start).take count)
  else .error (.cut start count bytes.length)

/-- Copies bytes over as many others. -/
def overwrite (bytes source : List UInt8) : Except AccessFault (List UInt8) :=
  if source.length = bytes.length then .ok source else .error (.unequal source.length bytes.length)

/-- The bytes of a vector can be fetched. -/
theorem fetch_toList {n : Nat} (v : Vector UInt8 n) (i : Fin n) : fetch v.toList i.val = .ok v[i] := by
  have hi : i.val < v.toList.length := by
    rw [Vector.length_toList]
    exact i.isLt
  unfold fetch
  rw [List.getElem?_eq_getElem hi]
  exact congrArg Except.ok (Vector.getElem_toList hi)

/-- The bytes of a vector can be replaced. -/
theorem put_toList {n : Nat} (v : Vector UInt8 n) (i : Fin n) (data : UInt8) :
    put v.toList i.val data = .ok (v.set i.val data i.isLt).toList := by
  have hi : i.val < v.toList.length := by
    rw [Vector.length_toList]
    exact i.isLt
  unfold put
  rw [if_pos hi, Vector.toList_set]

/-- A stretch that goes no further than the last byte can be taken. -/
theorem slice_eq {bytes : List UInt8} {start count : Nat} (h : start + count ≤ bytes.length) :
    slice bytes start count = .ok ((bytes.drop start).take count) := if_pos h

/-- As many bytes of one value as a vector has. -/
theorem filled {n : Nat} (v : Vector UInt8 n) (x : UInt8) :
    (Vector.replicate n x).toList = v.toList.map fun _ => x := by
  rw [List.map_const', Vector.length_toList, Vector.toList_replicate]

end Bytes

/-! ## The bytes of a board -/

/-- Replaces the bytes of an image. -/
def MemoryImages.setBytes (m : MemoryImages) (bytes : List UInt8) : Region → MemoryImages
  | .tilemap => { m with tilemap := { m.tilemap with bytes := bytes } }
  | .work => { m with work := { m.work with bytes := bytes } }
  | .sound => { m with sound := { m.sound with bytes := bytes } }

/-- Every cell can be fetched. -/
theorem SharedRam.fetch_bytes (m : SharedRam) (cell : Cell) :
    Bytes.fetch (m.bytes cell.region) cell.offset.val = .ok (m.read cell) := by
  obtain ⟨r, i⟩ := cell
  cases r with
  | tilemap => exact Bytes.fetch_toList m.tilemap i
  | work => exact Bytes.fetch_toList m.work i
  | sound => exact Bytes.fetch_toList m.sound i

/-- A write replaces one byte of one image. -/
theorem SharedRam.images_write (m : SharedRam) {r : Region} (i : Fin r.size) (data : UInt8) :
    (m.write ⟨r, i⟩ data).images = m.images.setBytes ((m.region r).set i.val data i.isLt).toList r := by
  cases r <;> rfl

/-- Zeros the bytes of an image, however many there are. -/
def MemoryImage.clear (i : MemoryImage) : MemoryImage := { i with bytes := i.bytes.map fun _ => 0 }

/-- The bytes that a board holds, in lists of any length. -/
structure Contents where
  memory : MemoryImages
  programs : PerProcessor (List UInt8)
  starfield : List UInt8

/-- Where the sprite tables begin. -/
def spriteTableStarts : List Nat := [0x780, 0xF80, 0x1780]

namespace Contents

/-- The bytes of a board that has just been switched on. -/
def powerOn : Contents where
  memory :=
    { tilemap := ⟨.tilemap, List.replicate (Region.size .tilemap) 0⟩
      work := ⟨.work, List.replicate (Region.size .work) 0⟩
      sound := ⟨.sound, List.replicate (Region.size .sound) 0⟩ }
  programs := .tabulate fun p => List.replicate p.romSize openBus
  starfield := List.replicate 4 0

/-- The bytes of a memory, for a processor that shares it. -/
def shared (s : Contents) (p : Processor) (r : Region) : Except AccessFault (List UInt8) :=
  if r.isOwnedBy p then .ok (s.memory.get r).bytes else .error (.foreign p r)

/-- The byte that a processor reads at an address, if one is stored there. -/
def read (s : Contents) (p : Processor) (a : UInt16) : Except AccessFault (Option UInt8) :=
  match place p .read a with
  | .ram r i => do
    let bytes ← s.shared p r
    let v ← Bytes.fetch bytes i
    pure (some v)
  | .rom i => do
    let v ← Bytes.fetch (s.programs.get p) i
    pure (some v)
  | .io _ _ | .watchdog | .interrupt _ _ | .secondaries _ | .ioChips _ | .starfield _ | .unmapped =>
    .ok none

/-- A write of a processor. -/
def write (s : Contents) (p : Processor) (a : UInt16) (data : UInt8) : Except AccessFault Contents :=
  match place p .write a with
  | .ram r i => do
    let bytes ← s.shared p r
    let bytes ← Bytes.put bytes i data
    pure { s with memory := s.memory.setBytes bytes r }
  | .starfield i => do
    let registers ← Bytes.put s.starfield i data
    pure { s with starfield := registers }
  | .rom _ | .io _ _ | .watchdog | .interrupt _ _ | .secondaries _ | .ioChips _ | .unmapped => .ok s

/-- The sprite tables in work memory. -/
def spriteTables (s : Contents) : Except AccessFault (List (List UInt8)) :=
  spriteTableStarts.mapM fun start => Bytes.slice s.memory.work.bytes start SharedRam.spriteTableLength

/-- Zeros the memories. -/
def clear (s : Contents) : Contents :=
  { s with memory := ⟨s.memory.tilemap.clear, s.memory.work.clear, s.memory.sound.clear⟩ }

/-- What a treatment does to the bytes, given what it gave back. The images of a state that was taken are
put into place as they are. -/
def treat (s : Contents) : Treatment → Except ImageProblem Answer → Except AccessFault Contents
  | .operation (.read p a), _ => do
    let _ ← s.read p a
    pure s
  | .operation (.write p a data), _ => s.write p a data
  | .operation .machineReset, _ => .ok s.clear
  | .operation .frameSync, .ok (.sync report) =>
    .ok (if report.watchdogReset.isSome then s.clear else s)
  | .operation (.loadRom p image), .ok .done => do
    let program ← Bytes.overwrite (s.programs.get p) image
    pure { s with programs := s.programs.set p program }
  | .operation (.unloadRom p), _ =>
    .ok { s with programs := s.programs.modify p fun bytes => bytes.map fun _ => openBus }
  | .operation (.snapshot _), _ => do
    let _ ← s.spriteTables
    pure s
  | .restore saved, .ok _ =>
    .ok { s with memory := saved.memory, starfield := saved.starfield.toList }
  | _, _ => .ok s

/-- What some treatments do to the bytes, given what each gave back. -/
def treated (s : Contents) : List (Treatment × Except ImageProblem Answer) → Except AccessFault Contents
  | [] => .ok s
  | (t, answer) :: record => do
    let s ← s.treat t answer
    s.treated record

end Contents

namespace Board

variable {S : Type}

/-- The bytes of a board. -/
def contents (b : Board S) : Contents where
  memory := b.memory.images
  programs := ⟨b.roms.main.toList, b.roms.sub.toList, b.roms.sound.toList⟩
  starfield := b.starfield.toList

/-- Some treatments, each with what it gave back. -/
def record [SoundChip S] (b : Board S) (run : List Treatment) :
    List (Treatment × Except ImageProblem Answer) := run.zip (b.responses run)

theorem contents_congr {b c : Board S} (hmemory : c.memory = b.memory) (hroms : c.roms = b.roms)
    (hstarfield : c.starfield = b.starfield) : c.contents = b.contents := by
  unfold contents
  rw [hmemory, hroms, hstarfield]

theorem shared_contents (b : Board S) {p : Processor} {r : Region} (h : r.isOwnedBy p = true) :
    b.contents.shared p r = .ok (b.memory.bytes r) := by
  unfold Contents.shared
  rw [if_pos h]
  cases r <;> rfl

/-! ## Accesses -/

theorem fetch_program (b : Board S) (p : Processor) (offset : Fin p.romSize) :
    Bytes.fetch (b.contents.programs.get p) offset.val = .ok (b.roms.read p offset) := by
  cases p with
  | main => exact Bytes.fetch_toList b.roms.main offset
  | sub => exact Bytes.fetch_toList b.roms.sub offset
  | sound => exact Bytes.fetch_toList b.roms.sound offset

/-- **A checked read gives what the board reads** where a byte is stored. -/
theorem read_contents (b : Board S) (p : Processor) (a : UInt16) :
    b.contents.read p a =
      .ok (match decode p a .read with
        | .ram _ | .rom _ => some (b.read p a).1
        | .io _ _ | .watchdog | .control _ | .unmapped => none) := by
  unfold Contents.read Board.read
  rw [← place_decode]
  cases hd : decode p a .read with
  | ram cell =>
    have howned : cell.region.isOwnedBy p = true := decode_ram_isOwnedBy hd
    show (do
      let bytes ← b.contents.shared p cell.region
      let v ← Bytes.fetch bytes cell.offset.val
      pure (some v)) = _
    rw [b.shared_contents howned]
    show (do
      let v ← Bytes.fetch (b.memory.bytes cell.region) cell.offset.val
      pure (some v)) = _
    rw [SharedRam.fetch_bytes]
    rfl
  | rom offset =>
    show (do
      let v ← Bytes.fetch (b.contents.programs.get p) offset.val
      pure (some v)) = _
    rw [b.fetch_program]
    rfl
  | control s => cases s <;> rfl
  | io _ _ | watchdog | unmapped => rfl

variable [SoundChip S]

theorem roms_write (b : Board S) (p : Processor) (a : UInt16) (data : UInt8) :
    (b.write p a data).roms = b.roms := congrArg Hardware.roms (b.hardware_write p a data)

/-- **A checked write does what the board does.** -/
theorem write_contents (b : Board S) (p : Processor) (a : UInt16) (data : UInt8) :
    b.contents.write p a data = .ok (b.write p a data).contents := by
  have hmemory := b.memory_write p a data
  have hstarfield := b.starfield_write p a data
  have hroms := b.roms_write p a data
  unfold Contents.write
  rw [← place_decode]
  cases hd : decode p a .write with
  | ram cell =>
    rw [hd] at hmemory hstarfield
    obtain ⟨r, i⟩ := cell
    have howned : r.isOwnedBy p = true := decode_ram_isOwnedBy hd
    show (do
      let bytes ← b.contents.shared p r
      let bytes ← Bytes.put bytes i.val data
      pure { b.contents with memory := b.contents.memory.setBytes bytes r }) = _
    rw [b.shared_contents howned]
    show (do
      let bytes ← Bytes.put (b.memory.region r).toList i.val data
      pure { b.contents with memory := b.contents.memory.setBytes bytes r }) = _
    rw [Bytes.put_toList]
    unfold contents
    rw [hmemory, hstarfield, hroms, SharedRam.images_write]
    rfl
  | control s =>
    cases s with
    | starfield register =>
      rw [hd] at hmemory hstarfield
      show (do
        let registers ← Bytes.put b.starfield.toList register.val data
        pure { b.contents with starfield := registers }) = _
      rw [Bytes.put_toList]
      unfold contents
      rw [hmemory, hstarfield, hroms]
      rfl
    | interrupt _ _ | secondaries _ | ioChips _ =>
      rw [hd] at hmemory hstarfield
      exact congrArg Except.ok (contents_congr hmemory hroms hstarfield).symm
  | rom _ | io _ _ | watchdog | unmapped =>
    rw [hd] at hmemory hstarfield
    exact congrArg Except.ok (contents_congr hmemory hroms hstarfield).symm

omit [SoundChip S] in
/-- **The sprite tables can be cut out of work memory.** -/
theorem spriteTables_contents (b : Board S) :
    b.contents.spriteTables =
      .ok [b.memory.shapeTable, b.memory.placeTable, b.memory.attributeTable] := by
  have hlength : b.contents.memory.work.bytes.length = 0x1800 := b.memory.length_bytes .work
  have hslice : ∀ start, start + SharedRam.spriteTableLength ≤ 0x1800 →
      Bytes.slice b.contents.memory.work.bytes start SharedRam.spriteTableLength =
        .ok (b.memory.spriteTable start) := by
    intro start hstart
    rw [← hlength] at hstart
    exact Bytes.slice_eq hstart
  unfold Contents.spriteTables spriteTableStarts
  simp only [List.mapM_cons, List.mapM_nil, hslice 0x780 (by decide), hslice 0xF80 (by decide),
    hslice 0x1780 (by decide)]
  rfl

/-! ## Operations -/

/-- A machine reset zeros the memories and leaves the other bytes alone. -/
theorem contents_machineReset (b : Board S) : b.machineReset.contents = b.contents.clear := by
  have hblank : SharedRam.blank.images = b.contents.clear.memory := by
    show MemoryImages.mk ⟨.tilemap, (Vector.replicate _ 0).toList⟩ ⟨.work, (Vector.replicate _ 0).toList⟩
      ⟨.sound, (Vector.replicate _ 0).toList⟩ = _
    rw [Bytes.filled b.memory.tilemap, Bytes.filled b.memory.work, Bytes.filled b.memory.sound]
    rfl
  obtain ⟨j, hj⟩ := b.machineReset_eq
  rw [hj]
  show { b.contents with memory := SharedRam.blank.images } = b.contents.clear
  rw [hblank]
  rfl

/-- The end of a frame zeros the memories if it resets the machine. -/
theorem contents_frameSync (b : Board S) :
    b.frameSync.2.contents =
      if b.frameSync.1.watchdogReset.isSome then b.contents.clear else b.contents := by
  obtain ⟨latches, io, hvblank, -⟩ := b.vblank_changes
  rw [frameSync_watchdogReset, frameSync_eq]
  cases b.expired with
  | none =>
    rw [hvblank]
    rfl
  | some p =>
    show (b.vblank.ticked.countReset p).machineReset.contents = b.contents.clear
    rw [contents_machineReset, hvblank]
    rfl

/-- Loading a program copies it over the one that was there, which is of the same length. -/
theorem loadRom_contents (b : Board S) (p : Processor) (image : List UInt8) :
    b.contents.treat (.operation (.loadRom p image)) (b.response (.operation (.loadRom p image))) =
      .ok (b.perform (.loadRom p image)).2.contents := by
  simp only [response, perform, loadRom]
  by_cases hlength : image.length = p.romSize
  · rw [dif_pos hlength]
    have hsame : image.length = (b.contents.programs.get p).length := by
      cases p <;> exact hlength.trans (Vector.length_toList).symm
    show (do
      let program ← Bytes.overwrite (b.contents.programs.get p) image
      pure { b.contents with programs := b.contents.programs.set p program }) = _
    unfold Bytes.overwrite
    rw [if_pos hsame]
    cases p <;> rfl
  · rw [dif_neg hlength]
    rfl

omit [SoundChip S] in
/-- Taking a program out leaves as many bytes. -/
theorem unloadRom_contents (b : Board S) (p : Processor) :
    (b.unloadRom p).contents =
      { b.contents with
        programs := b.contents.programs.modify p fun bytes => bytes.map fun _ => openBus } := by
  unfold unloadRom contents
  cases p with
  | main => exact congrArg (fun l => Contents.mk _ ⟨l, _, _⟩ _) (Bytes.filled b.roms.main openBus)
  | sub => exact congrArg (fun l => Contents.mk _ ⟨_, l, _⟩ _) (Bytes.filled b.roms.sub openBus)
  | sound => exact congrArg (fun l => Contents.mk _ ⟨_, _, l⟩ _) (Bytes.filled b.roms.sound openBus)

/-- **Checked, an operation does to the bytes what it does to the board.** -/
theorem perform_contents (b : Board S) (op : Operation) :
    b.contents.treat (.operation op) (b.response (.operation op)) = .ok (b.perform op).2.contents := by
  cases op with
  | read p a =>
    obtain ⟨main, sound, counts, j, hj⟩ := b.read_changes p a
    show (do let _ ← b.contents.read p a; pure b.contents) = Except.ok (b.read p a).2.contents
    rw [b.read_contents, hj]
    rfl
  | write p a data => exact b.write_contents p a data
  | frameSync => exact congrArg Except.ok b.contents_frameSync.symm
  | machineReset => exact congrArg Except.ok b.contents_machineReset.symm
  | loadRom p image => exact b.loadRom_contents p image
  | unloadRom p => exact congrArg Except.ok (b.unloadRom_contents p).symm
  | configureSlot slot spec wiring =>
    obtain ⟨io, j, hb, -⟩ := b.perform_configureSlot slot spec wiring
    rw [hb]
    rfl
  | snapshot frame =>
    show (do let _ ← b.contents.spriteTables; pure b.contents) = Except.ok b.contents
    rw [b.spriteTables_contents]
    rfl
  | beginFrame | takeReset _ | notePc _ _ | setInput _ _ | press _ _ | takeEvents => rfl

/-- **Checked, a treatment does to the bytes what it does to the board.** The images of a state that was taken
have the lengths of the memories, and nothing else was asked of them. -/
theorem treat_contents (b : Board S) (t : Treatment) :
    b.contents.treat t (b.response t) = .ok (b.treat t).contents := by
  cases t with
  | operation op => exact b.perform_contents op
  | restore saved =>
    simp only [response, treat]
    cases h : b.restore saved with
    | error e => rfl
    | ok b' =>
      obtain ⟨m, hm, rfl⟩ := restore_eq_ok h
      have himages := SharedRam.images_ofImages hm
      show Except.ok { b.contents with memory := saved.memory, starfield := saved.starfield.toList } = _
      rw [← himages]
      rfl

/-- **Checked, a whole run does to the bytes what it does to the board.** -/
theorem treated_contents (b : Board S) (run : List Treatment) :
    b.contents.treated (b.record run) = .ok (b.treated run).contents := by
  induction run generalizing b with
  | nil => rfl
  | cons t run ih =>
    show (do let s ← b.contents.treat t (b.response t); s.treated ((b.treat t).record run)) = _
    rw [b.treat_contents]
    exact ih (b.treat t)

end Board

/-! ## Within bounds -/

/-- Whether a byte is stored at a place. -/
def AddressMap.Place.holdsByte : Place → Bool
  | .ram _ _ | .rom _ => true
  | .io _ _ | .watchdog | .interrupt _ _ | .secondaries _ | .ioChips _ | .starfield _ | .unmapped => false

/-- A place is within bounds: a memory is shared by the processor and has a byte there, the program has a
byte there, or there is such a register. -/
def Contents.Admits (s : Contents) (p : Processor) : Place → Prop
  | .ram r i => r.isOwnedBy p = true ∧ i < (s.memory.get r).bytes.length
  | .rom i => i < (s.programs.get p).length
  | .starfield i => i < 4 ∧ s.starfield.length = 4
  | .io _ _ | .watchdog | .interrupt _ _ | .secondaries _ | .ioChips _ | .unmapped => True

namespace Board

variable {S : Type}

/-- **Every address leads to a place within bounds.** -/
theorem admits_contents (b : Board S) (p : Processor) (access : Access) (a : UInt16) :
    b.contents.Admits p (place p access a) := by
  rw [← place_decode]
  cases hd : decode p a access with
  | ram cell =>
    obtain ⟨r, i⟩ := cell
    have howned : r.isOwnedBy p = true := decode_ram_isOwnedBy hd
    have hlength : (b.contents.memory.get r).bytes.length = r.size := by
      cases r <;> exact b.memory.length_bytes _
    refine ⟨howned, ?_⟩
    rw [hlength]
    exact i.isLt
  | rom offset =>
    have hlength : (b.contents.programs.get p).length = p.romSize := by
      cases p <;> exact Vector.length_toList
    show offset.val < (b.contents.programs.get p).length
    rw [hlength]
    exact offset.isLt
  | control s =>
    cases s with
    | starfield register => exact ⟨register.isLt, Vector.length_toList⟩
    | interrupt _ _ | secondaries _ | ioChips _ => trivial
  | io _ _ | watchdog | unmapped => trivial

variable [SoundChip S]

/-- **No access is out of bounds.** Switch a board on, and do anything to it: accesses, frames, resets, programs
of any length, and any saved states whatever, of which the board takes those whose images fit. Keep its bytes
in plain lists, which the same things are done to with every access checked. The lists do not fault, and in
the end they are the bytes of the board. Then

- the decoder leads to the places of the tables, which compute with plain numbers, and each is within bounds:
  a memory is shared by the processor and is longer than the offset, as is the program, and there are four
  star field registers;
- the three sprite tables end within work memory;
- every further checked access succeeds: a read gives the byte that the board reads, a write leaves the bytes
  that it leaves on the board, and the sprite tables are those of the board. -/
theorem accesses_in_bounds {layout : IoLayout} {inputs : Inputs} {frames : UInt32} {sound : S}
    {b : Board S} (h : powerOn layout inputs frames sound = .ok b) (run : List Treatment) :
    ∃ s, Contents.powerOn.treated (b.record run) = .ok s ∧ s = (b.treated run).contents ∧
      (∀ p access a, (decode p a access).place = place p access a ∧ s.Admits p (place p access a)) ∧
      (∀ start ∈ spriteTableStarts,
        start + SharedRam.spriteTableLength ≤ (s.memory.get .work).bytes.length) ∧
      (∀ p a, s.read p a =
        .ok (if (place p .read a).holdsByte then some ((b.treated run).read p a).1 else none)) ∧
      (∀ p a data, s.write p a data = .ok ((b.treated run).write p a data).contents) ∧
      s.spriteTables =
        .ok [(b.treated run).memory.shapeTable, (b.treated run).memory.placeTable,
          (b.treated run).memory.attributeTable] := by
  have hstart : b.contents = Contents.powerOn := by
    rw [powerOn_eq] at h
    cases h
    unfold contents Contents.powerOn stock
    simp only [SharedRam.images, SharedRam.bytes, SharedRam.region, SharedRam.blank, ProgramRoms.empty,
      Vector.toList_replicate, PerProcessor.tabulate]
  have hrun := b.treated_contents run
  rw [hstart] at hrun
  refine ⟨(b.treated run).contents, hrun, rfl, ?_, ?_, ?_, ?_, ?_⟩
  · intro p access a
    exact ⟨place_decode p access a, (b.treated run).admits_contents p access a⟩
  · intro start hmem
    have hlength : ((b.treated run).contents.memory.get .work).bytes.length = 0x1800 :=
      (b.treated run).memory.length_bytes .work
    rw [hlength]
    revert start
    decide
  · intro p a
    rw [read_contents, ← place_decode]
    cases decode p a .read with
    | ram _ | rom _ | io _ _ | watchdog | unmapped => rfl
    | control s => cases s <;> rfl
  · intro p a data
    exact (b.treated run).write_contents p a data
  · exact (b.treated run).spriteTables_contents

/-- Sound's program is loaded, a program that is too short is refused for main, and so is a state whose tile
map is empty; a state that fits is taken, sub writes the last byte of work memory, and the tables are cut
out. -/
theorem accesses_in_bounds_loaded :
    let layout : IoLayout := ⟨⟨⟨.playerCoin, .part56⟩, ⟨.dipSwitch, .part58⟩⟩, true⟩
    let b := stock layout (.atRest 0xFF 0xF8) 8 SoundRegisters.silent
    let empty : BoardState :=
      { b.state with memory := { b.state.memory with tilemap := ⟨.tilemap, []⟩ } }
    let run : List Treatment :=
      [.operation (.loadRom .sound (List.replicate 0x2000 0x42)), .operation (.loadRom .main [1, 2, 3]),
        .restore empty, .restore b.state, .operation (.write .sub 0x1FFF 0x17), .operation (.snapshot 0)]
    powerOn layout (.atRest 0xFF 0xF8) 8 SoundRegisters.silent = .ok b ∧
      ∃ s, Contents.powerOn.treated (b.record run) = .ok s ∧ s.read .sound 0xE002 = .ok (some 0x42) ∧
        s.read .main 0x1FFF = .ok (some 0x17) ∧ s.read .main 0x6800 = .ok none := by
  intro layout b empty run
  have hb := powerOn_eq layout (.atRest 0xFF 0xF8) 8 SoundRegisters.silent
  obtain ⟨s, hrun, -, -, -, hread, -⟩ := accesses_in_bounds hb run
  refine ⟨hb, s, hrun, ?_, ?_, ?_⟩
  · rw [hread]
    decide +kernel
  · rw [hread]
    decide +kernel
  · rw [hread]
    decide +kernel

end Board

end Arcade
