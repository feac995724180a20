import Arcade.Interpreter.Idle
import Arcade.Proofs.Board.Footprint
import Arcade.Proofs.Cabinet.LoadInPlace
import Arcade.Proofs.Machine.Runs
import Arcade.Proofs.Rom
import Mathlib.Data.List.Induction

/-!
# `Arcade.Proofs.Cabinet.Mounting` — a program stays until it is mounted over or taken out

Three records are kept of a program: its bytes and a flag on the board, and the chips found to be wrong in
the cabinet. Mounting and taking out change all three together, or nothing. Everything else leaves them
alone: frames and resets, what processors and the host do on the board, and saved states, which hold no
program. So after any history each record can be read off the last program that was mounted.

## Contents
- `Cabinet.mountInPlace`, `unmountInPlace`: the steps, and when they stop.
- `Board.sockets`, `sockets_perform`: nothing else touches the programs.
- `Cabinet.Act`, `act`, `acted`: a history; `lastMounted`: the program that it has mounted last.
- `Cabinet.Carries`: a cabinet with given programs, and `Carries.act`, one step of a history.
- `Cabinet.programs_follow_mounts`.
-/

namespace Arcade

/-- The chips of a processor hold as many bytes as its program has. -/
theorem ProgramChips.length_of (c : ProgramChips) (p : Processor) :
    (c.of p).length * Rom.chipSize = p.romSize := by
  cases p with
  | main | sub | sound =>
    unfold ProgramChips.of
    rw [Vector.length_toList]
    rfl

/-! ## Mounting and taking out -/

theorem ProgramRoms.toList_get_set (r : ProgramRoms) (p q : Processor) (v : Vector UInt8 p.romSize) :
    ((r.set p v).get q).toList = if p = q then v.toList else (r.get q).toList := by
  cases p <;> cases q <;> rfl

namespace Cabinet

variable {σ S : Type}

theorem mountId_inj {p q : Processor} : mountId p = mountId q ↔ p = q := by
  cases p <;> cases q <;> decide

theorem mountTarget?_mountId (p : Processor) : mountTarget? (mountId p) = some p := by
  cases p <;> decide

theorem mountTarget?_eq_some_iff {id : String} {p : Processor} : mountTarget? id = some p ↔ id = mountId p := by
  constructor
  · intro h
    unfold mountTarget? at h
    have hid := List.find?_some h
    exact (of_decide_eq_true hid).symm
  · rintro rfl
    exact mountTarget?_mountId p

theorem mountTarget?_eq_none_iff {id : String} : mountTarget? id = none ↔ ∀ p, id ≠ mountId p := by
  constructor
  · rintro h p rfl
    rw [mountTarget?_mountId] at h
    cases h
  · intro h
    cases hp : mountTarget? id with
    | none => rfl
    | some p => exact absurd (mountTarget?_eq_some_iff.mp hp) (h p)

/-- Mounts a program, step by step. -/
def mountInPlace (id : String) (image : List UInt8) : EStateM MountProblem (Cabinet σ S) Unit := do
  let some p := mountTarget? id | throw (.noMountPoint id)
  if h : image.length = p.romSize then
    modify fun s => s.mapBoard fun b => { b with roms := b.roms.set p ⟨image.toArray, by simpa using h⟩ }
    modify fun s => s.mapBoard fun b => { b with loaded := b.loaded.set p true }
    let found := Rom.verify ((← get).revision.chips.of p) image
    modify fun s => s.mapBoard fun b => b.noteAll (found.map RomMismatch.notice)
    modify fun s => { s with mismatches := s.mismatches.set p found }
  else throw (.romSize ⟨p, image.length⟩)

/-- Takes a program out, step by step. -/
def unmountInPlace (id : String) : EStateM MountProblem (Cabinet σ S) Unit := do
  let some p := mountTarget? id | throw (.noMountPoint id)
  modify fun s => s.mapBoard fun b => { b with roms := b.roms.set p (Vector.replicate _ openBus) }
  modify fun s => s.mapBoard fun b => { b with loaded := b.loaded.set p false }
  modify fun s => { s with mismatches := s.mismatches.set p [] }

/-- The steps mount what `mount` mounts, or stop with the cabinet as it was. -/
theorem mountInPlace_eq (id : String) (image : List UInt8) (s : Cabinet σ S) :
    mountInPlace id image s = outcome s (s.mount id image) := by
  unfold mountInPlace mount Board.loadRom
  cases mountTarget? id with
  | none => rfl
  | some p =>
    dsimp only
    by_cases hsize : image.length = p.romSize
    · rw [dif_pos hsize, dif_pos hsize]
      rfl
    · rw [dif_neg hsize, dif_neg hsize]
      rfl

theorem unmountInPlace_eq (id : String) (s : Cabinet σ S) :
    unmountInPlace id s = outcome s (s.unmount id) := by
  unfold unmountInPlace unmount
  cases mountTarget? id with
  | none => rfl
  | some p => rfl

section Outcome

variable {s t : Cabinet σ S} {id : String} {image : List UInt8}

/-- What a mount comes to. -/
theorem mount_cases (s : Cabinet σ S) (id : String) (image : List UInt8) :
    (∃ (p : Processor) (h : image.length = p.romSize) (j : Journal), id = mountId p ∧
        s.mount id image = .ok
          { s with
            machine :=
              { s.machine with
                board :=
                  { s.machine.board with
                    roms := s.machine.board.roms.set p ⟨image.toArray, by simpa using h⟩
                    loaded := s.machine.board.loaded.set p true
                    journal := j } }
            mismatches := s.mismatches.set p (Rom.verify (s.revision.chips.of p) image) }) ∨
      ((∀ p, id = mountId p → image.length ≠ p.romSize) ∧ ∃ problem, s.mount id image = .error problem) := by
  unfold mount Board.loadRom
  cases hid : mountTarget? id with
  | none =>
    have hnone := mountTarget?_eq_none_iff.mp hid
    exact .inr ⟨fun p hp => absurd hp (hnone p), _, rfl⟩
  | some p =>
    have hp := mountTarget?_eq_some_iff.mp hid
    dsimp only
    by_cases hsize : image.length = p.romSize
    · rw [dif_pos hsize]
      exact .inl ⟨p, hsize, _, hp, rfl⟩
    · rw [dif_neg hsize]
      refine .inr ⟨?_, _, rfl⟩
      intro q hq
      obtain rfl : p = q := mountId_inj.mp (hp.symm.trans hq)
      exact hsize

theorem exists_mount_iff : (∃ t, s.mount id image = .ok t) ↔ ∃ p, id = mountId p ∧ image.length = p.romSize := by
  rcases s.mount_cases id image with ⟨p, hsize, j, hid, hmount⟩ | ⟨hnone, problem, hmount⟩
  · exact ⟨fun _ => ⟨p, hid, hsize⟩, fun _ => ⟨_, hmount⟩⟩
  · rw [hmount]
    exact ⟨fun ⟨_, hfound⟩ => (nomatch hfound), fun ⟨p, hid, hsize⟩ => absurd hsize (hnone p hid)⟩

theorem exists_unmount_iff : (∃ t, s.unmount id = .ok t) ↔ ∃ p, id = mountId p := by
  unfold unmount
  cases hid : mountTarget? id with
  | none =>
    have hnone := mountTarget?_eq_none_iff.mp hid
    exact ⟨fun ⟨_, hfound⟩ => (nomatch hfound), fun ⟨p, hp⟩ => absurd hp (hnone p)⟩
  | some p => exact ⟨fun _ => ⟨p, mountTarget?_eq_some_iff.mp hid⟩, fun _ => ⟨_, rfl⟩⟩

end Outcome

end Cabinet

/-! ## Everything else -/

/-- Whether an operation puts a program into the board or takes one out. -/
def Operation.plugs : Operation → Bool
  | .loadRom _ _ | .unloadRom _ => true
  | _ => false

namespace Board

variable {S : Type} [SoundChip S]

omit [SoundChip S] in
/-- The programs of a board, and which of them have been loaded. -/
def sockets (b : Board S) : ProgramRoms × PerProcessor Bool := (b.roms, b.loaded)

theorem sockets_machineReset (b : Board S) : b.machineReset.sockets = b.sockets := by
  obtain ⟨j, hj⟩ := b.machineReset_eq
  rw [hj]
  rfl

theorem sockets_frameSync (b : Board S) : b.frameSync.2.sockets = b.sockets := by
  obtain ⟨latches, io, hb, -⟩ := b.vblank_changes
  have hrequested : b.vblank.sockets = b.sockets := by
    rw [hb]
    rfl
  rw [frameSync_eq, ← hrequested]
  cases b.expired with
  | none => rfl
  | some p => exact sockets_machineReset _

theorem sockets_write (b : Board S) (p : Processor) (a : UInt16) (data : UInt8) :
    (b.write p a data).sockets = b.sockets := by
  obtain ⟨j, hj⟩ := b.write_eq p a data
  rw [hj]
  cases AddressMap.decode p a .write with
  | ram _ | rom _ | io _ _ | unmapped => rfl
  | watchdog =>
    obtain ⟨main, sound, hserviced⟩ := b.serviceWatchdog_changes p
    dsimp only
    rw [hserviced]
    rfl
  | control s =>
    obtain ⟨_, _, _, _, _, _, _, hb, -⟩ := b.control_changes p s data
    dsimp only
    rw [hb]
    rfl

/-- **Nothing else touches the programs.** -/
theorem sockets_perform (b : Board S) {op : Operation} (hop : op.plugs = false) :
    (b.perform op).2.sockets = b.sockets := by
  cases op with
  | read p a =>
    obtain ⟨main, sound, counts, j, hj⟩ := b.read_changes p a
    show (b.read p a).2.sockets = b.sockets
    rw [hj]
    rfl
  | write p a data => exact b.sockets_write p a data
  | frameSync => exact b.sockets_frameSync
  | machineReset => exact b.sockets_machineReset
  | configureSlot slot spec wiring =>
    obtain ⟨io, j, hb, -⟩ := b.perform_configureSlot slot spec wiring
    rw [hb]
    rfl
  | beginFrame | takeReset _ | notePc _ _ | setInput _ _ | press _ _ | takeEvents | snapshot _ => rfl
  | loadRom _ _ | unloadRom _ => cases hop

theorem Runs.sockets_eq {b c : Board S} (h : b.Runs c) : c.sockets = b.sockets := by
  induction h with
  | refl => rfl
  | perform _ op hop ih =>
    have hplugs : op.plugs = false := by cases op <;> first | rfl | cases hop
    rw [sockets_perform _ hplugs, ih]
  | note _ n ih => exact ih

/-- A saved state holds no program. -/
theorem sockets_restore {b b' : Board S} {saved : BoardState} (h : b.restore saved = .ok b') :
    b'.sockets = b.sockets := by
  obtain ⟨m, -, rfl⟩ := restore_eq_ok h
  rfl

end Board

/-! ## Histories -/

namespace Cabinet

variable {σ S : Type} [Interpreter σ] [SoundChip S]

/-- Something that is done with a cabinet. -/
inductive Act
  | mount (id : String) (image : List UInt8)
  | unmount (id : String)
  | stepFrame
  | reset
  | loadState (v : Json)
  /-- Bus traffic, inputs, and whatever else is done to the board itself, but to its programs. -/
  | operate (op : Operation) (h : op.plugs = false)
  /-- A state is put into the board. -/
  | restore (saved : BoardState)

/-- Does one thing with a cabinet. What fails leaves the cabinet as it is. -/
def act (s : Cabinet σ S) : Act → Cabinet σ S
  | .mount id image => (s.mount id image).toOption.getD s
  | .unmount id => (s.unmount id).toOption.getD s
  | .stepFrame => s.stepFrame
  | .reset => s.reset
  | .loadState v => (s.loadState v).toOption.getD s
  | .operate op _ => s.mapBoard fun b => (b.perform op).2
  | .restore saved => s.mapBoard fun b => (b.restore saved).toOption.getD b

/-- The cabinet after one thing after the other. -/
def acted (s : Cabinet σ S) (acts : List Act) : Cabinet σ S := acts.foldl act s

/-- What an act makes of the program of a processor, if it changes it: mounting succeeds under the name of
the processor and with an image of its size, and taking out under its name. -/
def Act.exchange? (p : Processor) : Act → Option (Option (List UInt8))
  | .mount id image => if id = mountId p ∧ image.length = p.romSize then some (some image) else none
  | .unmount id => if id = mountId p then some none else none
  | .stepFrame | .reset | .loadState _ | .operate _ _ | .restore _ => none

/-- The program of a processor that was mounted last, unless it has been taken out since. -/
def lastMounted (p : Processor) (acts : List Act) : Option (List UInt8) :=
  (acts.filterMap (Act.exchange? p)).getLast?.join

theorem Act.exchange?_mount (p : Processor) (id : String) (image : List UInt8) :
    (Act.mount id image).exchange? p =
      if id = mountId p ∧ image.length = p.romSize then some (some image) else none := rfl

theorem Act.exchange?_unmount (p : Processor) (id : String) :
    (Act.unmount id).exchange? p = if id = mountId p then some none else none := rfl

theorem lastMounted_snoc (p : Processor) (acts : List Act) (a : Act) :
    lastMounted p (acts ++ [a]) = (a.exchange? p).getD (lastMounted p acts) := by
  unfold lastMounted
  rw [List.filterMap_append, List.getLast?_append]
  cases ha : a.exchange? p with
  | none => simp [ha]
  | some changed => simp [ha]

/-- The programs of a cabinet, and all that it knows about them. -/
structure Carries (s : Cabinet σ S) (programs : Processor → Option (List UInt8)) : Prop where
  size : ∀ p image, programs p = some image → image.length = p.romSize
  loaded : ∀ p, s.board.loaded.get p = (programs p).isSome
  bytes : ∀ p, (s.board.roms.get p).toList = (programs p).getD (List.replicate p.romSize openBus)
  mismatches : ∀ p, s.mismatches.get p = ((programs p).map (Rom.verify (s.revision.chips.of p))).getD []

section Carries

variable {s t : Cabinet σ S} {programs : Processor → Option (List UInt8)}

omit [Interpreter σ] [SoundChip S] in
/-- What leaves the three records alone leaves the programs as they are. -/
theorem Carries.of_eq (h : s.Carries programs) (hsockets : t.board.sockets = s.board.sockets)
    (hmismatches : t.mismatches = s.mismatches) (hrevision : t.revision = s.revision) :
    t.Carries programs := by
  obtain ⟨hroms, hloaded⟩ := Prod.mk.inj hsockets
  obtain ⟨hsize, hflags, hbytes, hwrong⟩ := h
  refine { size := hsize, loaded := ?_, bytes := ?_, mismatches := ?_ }
  · rw [hloaded]
    exact hflags
  · rw [hroms]
    exact hbytes
  · rw [hmismatches, hrevision]
    exact hwrong

omit [Interpreter σ] [SoundChip S] in
/-- **All three records change together** for the processor whose program is exchanged, and for no other. -/
theorem Carries.exchange (h : s.Carries programs) {p : Processor} {program : Option (List UInt8)}
    {v : Vector UInt8 p.romSize} (hsize : ∀ image, program = some image → image.length = p.romSize)
    (hv : v.toList = program.getD (List.replicate p.romSize openBus))
    (hroms : t.board.roms = s.board.roms.set p v)
    (hloaded : t.board.loaded = s.board.loaded.set p program.isSome)
    (hmismatches : t.mismatches =
      s.mismatches.set p ((program.map (Rom.verify (s.revision.chips.of p))).getD []))
    (hrevision : t.revision = s.revision) :
    t.Carries fun q => if p = q then program else programs q := by
  refine { size := ?_, loaded := ?_, bytes := ?_, mismatches := ?_ }
  · intro q image hq
    by_cases hpq : p = q
    · subst hpq
      rw [if_pos rfl] at hq
      exact hsize image hq
    · rw [if_neg hpq] at hq
      exact h.size q image hq
  · intro q
    rw [hloaded, PerProcessor.get_set]
    by_cases hpq : p = q
    · rw [if_pos hpq, if_pos hpq]
    · rw [if_neg hpq, if_neg hpq, h.loaded]
  · intro q
    rw [hroms, ProgramRoms.toList_get_set]
    by_cases hpq : p = q
    · subst hpq
      rw [if_pos rfl, if_pos rfl, hv]
    · rw [if_neg hpq, if_neg hpq, h.bytes]
  · intro q
    rw [hmismatches, hrevision, PerProcessor.get_set]
    by_cases hpq : p = q
    · subst hpq
      rw [if_pos rfl, if_pos rfl]
    · rw [if_neg hpq, if_neg hpq, h.mismatches]

theorem Carries.mount (h : s.Carries programs) (id : String) (image : List UInt8) :
    (s.act (.mount id image)).Carries
      fun p => ((Act.mount id image).exchange? p).getD (programs p) := by
  show ((s.mount id image).toOption.getD s).Carries _
  rcases s.mount_cases id image with ⟨p, hsize, j, rfl, hmount⟩ | ⟨hnone, problem, hmount⟩
  · have hchange (q : Processor) :
        ((Act.mount (mountId p) image).exchange? q).getD (programs q) =
          if p = q then some image else programs q := by
      rw [Act.exchange?_mount]
      by_cases hpq : p = q
      · subst hpq
        rw [if_pos ⟨rfl, hsize⟩, if_pos rfl, Option.getD_some]
      · rw [if_neg fun hid => hpq (mountId_inj.mp hid.1), if_neg hpq, Option.getD_none]
    rw [hmount, funext hchange]
    refine h.exchange ?_ ?_ rfl rfl rfl rfl
    · intro image' himage
      cases himage
      exact hsize
    · rfl
  · have hchange (q : Processor) :
        ((Act.mount id image).exchange? q).getD (programs q) = programs q := by
      rw [Act.exchange?_mount, if_neg fun hid => hnone q hid.1 hid.2, Option.getD_none]
    rw [hmount, funext hchange]
    exact h

theorem Carries.unmount (h : s.Carries programs) (id : String) :
    (s.act (.unmount id)).Carries fun p => ((Act.unmount id).exchange? p).getD (programs p) := by
  show ((s.unmount id).toOption.getD s).Carries _
  unfold Cabinet.unmount
  simp only [Act.exchange?_unmount]
  cases hid : mountTarget? id with
  | none =>
    have hnone := mountTarget?_eq_none_iff.mp hid
    have hchange (q : Processor) :
        (if id = mountId q then some (none : Option (List UInt8)) else none).getD (programs q) = programs q := by
      rw [if_neg (hnone q), Option.getD_none]
    rw [funext hchange]
    exact h
  | some p =>
    obtain rfl := mountTarget?_eq_some_iff.mp hid
    have hchange (q : Processor) :
        (if mountId p = mountId q then some (none : Option (List UInt8)) else none).getD (programs q) =
          if p = q then none else programs q := by
      by_cases hpq : p = q
      · rw [if_pos (congrArg mountId hpq), if_pos hpq, Option.getD_some]
      · rw [if_neg fun hsame => hpq (mountId_inj.mp hsame), if_neg hpq, Option.getD_none]
    rw [funext hchange]
    refine h.exchange nofun ?_ rfl rfl rfl rfl
    exact Vector.toList_replicate

/-- **One step of a history** changes the programs as it says. -/
theorem Carries.act (h : s.Carries programs) (a : Act) :
    (s.act a).Carries fun p => (a.exchange? p).getD (programs p) := by
  cases a with
  | mount id image => exact h.mount id image
  | unmount id => exact h.unmount id
  | stepFrame => exact h.of_eq s.stepFrame_ran.board.sockets_eq rfl rfl
  | reset =>
    have hreset : s.board.machineReset.sockets = s.board.sockets := s.board.sockets_machineReset
    exact h.of_eq ((Machine.syncLines_ran _).board.sockets_eq.trans hreset) rfl rfl
  | operate op hop => exact h.of_eq (s.board.sockets_perform hop) rfl rfl
  | restore saved =>
    have hkept : ((s.board.restore saved).toOption.getD s.board).sockets = s.board.sockets := by
      cases hb : s.board.restore saved with
      | error problem => rfl
      | ok b => exact Board.sockets_restore hb
    exact h.of_eq hkept rfl rfl
  | loadState v =>
    show ((s.loadState v).toOption.getD s).Carries programs
    cases hload : s.loadState v with
    | error problem => exact h
    | ok t =>
      obtain ⟨saved, b, -, hb, rfl⟩ := loadState_eq_ok hload
      have hkept := Board.sockets_restore hb
      exact h.of_eq ((Machine.syncLines_ran _).board.sockets_eq.trans hkept) rfl rfl

/-- **After any history** a cabinet carries the programs that were mounted last. -/
theorem Carries.acted (h : s.Carries fun _ => none) (acts : List Act) :
    (s.acted acts).Carries fun p => lastMounted p acts := by
  -- from the end, as it is the last act that counts
  induction acts using List.reverseRecOn with
  | nil => exact h
  | append_singleton acts a ih =>
    have hlast : (fun p => lastMounted p (acts ++ [a])) =
        fun p => (a.exchange? p).getD (lastMounted p acts) := funext fun p => lastMounted_snoc p acts a
    have hstep : s.acted (acts ++ [a]) = (s.acted acts).act a := List.foldl_append
    rw [hlast, hstep]
    exact ih.act a

end Carries

omit [Interpreter σ] [SoundChip S] in
/-- Nothing is mounted on a new cabinet. -/
theorem carries_stock (config : Config) (r : Revision) (interpreters : PerProcessor σ) (sound : S)
    (journal : Journal) : (stock config r interpreters sound journal).Carries fun _ => none where
  size _ _ h := nomatch h
  loaded p := PerProcessor.get_replicate _ p
  bytes p := by
    cases p <;> exact Vector.toList_replicate
  mismatches p := PerProcessor.get_replicate _ p

/-- What a cabinet shows of its programs. -/
structure Shows (s : Cabinet σ S) (programs : Processor → Option (List UInt8)) : Prop where
  isMounted : ∀ id, s.isMounted id = true ↔ ∃ p image, id = mountId p ∧ programs p = some image
  /-- While the machine runs, a processor reads the bytes of its program. -/
  read : ∀ c, s.board.Runs c → ∀ p a offset, AddressMap.decode p a .read = .rom offset →
    (∀ image, programs p = some image → image[offset.val]? = some (c.read p a).1) ∧
      (programs p = none → (c.read p a).1 = openBus)
  mismatches : ∀ p, s.mismatches.get p =
    match programs p with
    | some image => Rom.mismatched (s.revision.chips.of p) image
    | none => []

omit [Interpreter σ] in
theorem Carries.shows {s : Cabinet σ S} {programs : Processor → Option (List UInt8)}
    (h : s.Carries programs) : s.Shows programs := by
  refine { isMounted := ?_, read := ?_, mismatches := ?_ }
  · intro id
    unfold Cabinet.isMounted
    cases hid : mountTarget? id with
    | none =>
      have hnone := mountTarget?_eq_none_iff.mp hid
      exact ⟨nofun, fun ⟨p, _, hp, _⟩ => absurd hp (hnone p)⟩
    | some p =>
      obtain rfl := mountTarget?_eq_some_iff.mp hid
      dsimp only
      rw [h.loaded p, Option.isSome_iff_exists]
      constructor
      · rintro ⟨image, himage⟩
        exact ⟨p, image, rfl, himage⟩
      · rintro ⟨q, image, hsame, himage⟩
        obtain rfl := mountId_inj.mp hsame
        exact ⟨image, himage⟩
  · intro c hruns p a offset hdecode
    have hroms : c.roms = s.board.roms := congrArg Prod.fst hruns.sockets_eq
    have hread := c.read_of_rom (AddressMap.place_of_decode hdecode)
    rw [hroms, h.bytes p] at hread
    refine ⟨?_, ?_⟩
    · intro image himage
      rwa [himage] at hread
    · intro hnone
      rw [hnone, Option.getD_none, List.getElem?_replicate, if_pos offset.isLt] at hread
      exact (Option.some.inj hread).symm
  · intro p
    rw [h.mismatches p]
    cases hp : programs p with
    | none => rfl
    | some image =>
      have hfills : image.length = (s.revision.chips.of p).length * Rom.chipSize := by
        rw [h.size p image hp, ProgramChips.length_of]
      exact Rom.verify_eq_mismatched hfills

/-- **A program stays until it is mounted over or taken out.** Put a cabinet together and do anything with
it, with attempts to mount and to take out among the rest. After that

- mounting succeeds exactly under the name of a processor and with an image of its size, and taking out
  exactly under such a name; an attempt that fails leaves the cabinet as it was;
- a program is mounted under a name exactly if the last attempt that succeeded under it was a mount;
- each processor reads the bytes of the program that was mounted last, or `FF` if there is none;
- the chips found to be wrong are exactly those of the revision whose pieces of that program have another
  checksum, in the order of their addresses, and none if there is no program. -/
theorem programs_follow_mounts {config : Config} {interpreters : PerProcessor σ} {sound : S}
    {journal : Journal} {s : Cabinet σ S} (h : assemble config interpreters sound journal = .ok s)
    (acts : List Act) :
    let t := s.acted acts
    (∀ id image, (∃ t', t.mount id image = .ok t') ↔ ∃ p, id = mountId p ∧ image.length = p.romSize) ∧
      (∀ id, (∃ t', t.unmount id = .ok t') ↔ ∃ p, id = mountId p) ∧
      (∀ id image,
        (∀ e t', mountInPlace id image t = .error e t' → t' = t ∧ t.mount id image = .error e) ∧
          ∀ t', mountInPlace id image t = .ok () t' → t.mount id image = .ok t') ∧
      (∀ id,
        (∀ e t', unmountInPlace id t = .error e t' → t' = t ∧ t.unmount id = .error e) ∧
          ∀ t', unmountInPlace id t = .ok () t' → t.unmount id = .ok t') ∧
      t.Shows fun p => lastMounted p acts := by
  intro t
  have hnew : s.Carries fun _ => none := by
    obtain ⟨r, -, rfl⟩ := assemble_eq_ok h
    exact carries_stock config r interpreters sound journal
  refine ⟨fun _ _ => exists_mount_iff, fun _ => exists_unmount_iff, ?_, ?_, (hnew.acted acts).shows⟩
  · intro id image
    have hsteps := mountInPlace_eq id image t
    exact ⟨fun e t' hstop => outcome_eq_error (hsteps.symm.trans hstop),
      fun t' hend => outcome_eq_ok (hsteps.symm.trans hend)⟩
  · intro id
    have hsteps := unmountInPlace_eq id t
    exact ⟨fun e t' hstop => outcome_eq_error (hsteps.symm.trans hstop),
      fun t' hend => outcome_eq_ok (hsteps.symm.trans hend)⟩

/-- The sound program is mounted twice. An image of its size is refused as the program of main, and so is a
name that there is not. Then sound writes to its program, the machine is reset, something is loaded that
was not saved, and a frame is run. -/
theorem programs_follow_mounts_twice :
    let first := List.replicate 0x2000 (0x11 : UInt8)
    let second := List.replicate 0x2000 (0x22 : UInt8)
    let acts : List Act :=
      [.mount "sub2" first, .mount "sub2" second, .mount "maincpu" second, .unmount "sub3",
        .operate (.write .sound 0xE000 0x33) rfl, .reset, .loadState .null, .stepFrame]
    ∃ s, assemble Config.standard idleInterpreters SoundRegisters.silent .silent = .ok s ∧
      (s.acted acts).isMounted "sub2" = true ∧ ¬ (s.acted acts).isMounted "maincpu" = true ∧
      ((s.acted acts).board.read .sound 0xE000).1 = 0x22 ∧
      ((s.acted acts).board.read .main 0xA000).1 = 0xFF ∧
      (s.acted acts).mismatches.get .sound = Rom.mismatched ((s.acted acts).revision.chips.of .sound) second ∧
      (s.acted acts).mismatches.get .main = [] := by
  intro first second acts
  have hfirst : first.length = 0x2000 := List.length_replicate
  have hsecond : second.length = 0x2000 := List.length_replicate
  have hsound : lastMounted .sound acts = some second := by
    have hchanges : acts.filterMap (Act.exchange? .sound) = [some first, some second] := by
      simp [acts, List.filterMap_cons, Act.exchange?, mountId, Processor.romSize, hfirst, hsecond]
    unfold lastMounted
    rw [hchanges]
    rfl
  have hmain : lastMounted .main acts = none := by
    have hchanges : acts.filterMap (Act.exchange? .main) = [] := by
      simp [acts, List.filterMap_cons, Act.exchange?, mountId, Processor.romSize, hsecond]
    unfold lastMounted
    rw [hchanges]
    rfl
  obtain ⟨r, hr⟩ : ∃ r, Config.standard.check = .ok r := ⟨_, rfl⟩
  let s := stock Config.standard r idleInterpreters SoundRegisters.silent .silent
  have hnew : assemble Config.standard idleInterpreters SoundRegisters.silent .silent = .ok s := assemble_eq hr ..
  obtain ⟨-, -, -, -, hmounted, hread, hwrong⟩ := programs_follow_mounts hnew acts
  refine ⟨s, hnew, ?_, ?_, ?_, ?_, ?_, ?_⟩
  · exact (hmounted "sub2").mpr ⟨.sound, second, rfl, hsound⟩
  · rw [hmounted]
    rintro ⟨p, image, hid, himage⟩
    obtain rfl : p = .main := mountId_inj.mp hid.symm
    rw [hmain] at himage
    cases himage
  · have hdecode : AddressMap.decode .sound 0xE000 .read = .rom ⟨0, by decide⟩ := by decide
    have hbyte := (hread _ .refl .sound 0xE000 _ hdecode).1 second hsound
    rw [List.getElem?_replicate_of_lt (by decide)] at hbyte
    exact (Option.some.inj hbyte).symm
  · have hdecode : AddressMap.decode .main 0xA000 .read = .rom ⟨0, by decide⟩ := by decide
    exact (hread _ .refl .main 0xA000 _ hdecode).2 hmain
  · rw [hwrong, hsound]
  · rw [hwrong, hmain]

end Cabinet

end Arcade
