import Arcade.Proofs.Board.Interleaving
import Arcade.Proofs.Memory.Decode

/-!
# `Arcade.Proofs.Board.Secondaries` — sub and sound do not meet

Sub and sound share a memory with main each, and none with each other. Each has its own interrupt, sound has
a watchdog, and everything else that an access can change is main's. What is left are the counts of accesses
that lead nowhere, which both add to; and adding does not depend on the order.

So every access of sub is independent of every access of sound, and between accesses of main it does not
matter how the two take their turns.

## Contents
- `Operation.isAccessOf`; `Target.isMains`, `Place.isMains`, `isMains_place`, `isMains_decode`: what main alone reaches.
- `Change`, `Board.change`: what an access of sub or sound can do to a board, and nothing more
  (`access_change`).
- `Change.BelongsTo`, `belongsTo_change`: a processor makes changes of its own.
- `answer_change`, `change_comm`: changes of sub and of sound do not depend on each other.
- `sub_independent_sound`, `secondaries_interleave`.
-/

namespace Arcade

open AddressMap

/-- Whether an operation is an access of a processor. -/
def Operation.isAccessOf (p : Processor) : Operation → Bool
  | .read q _ | .write q _ _ => q = p
  | _ => false

/-- An access is a read or a write. -/
theorem Operation.access_cases {p : Processor} {op : Operation} (h : op.isAccessOf p = true) :
    (∃ a, op = .read p a) ∨ ∃ a data, op = .write p a data := by
  cases op with
  | read q a =>
    obtain rfl : q = p := of_decide_eq_true h
    exact .inl ⟨a, rfl⟩
  | write q a data =>
    obtain rfl : q = p := of_decide_eq_true h
    exact .inr ⟨a, data, rfl⟩
  | beginFrame | frameSync | machineReset | takeReset _ | notePc _ _ | setInput _ _ | press _ _
  | takeEvents | configureSlot _ _ _ | loadRom _ _ | unloadRom _ | snapshot _ => cases h

/-- An access is of one processor only. -/
theorem Operation.isAccessOf_of_ne {p q : Processor} {op : Operation} (h : op.isAccessOf p = true)
    (hne : p ≠ q) : op.isAccessOf q = false := by
  rcases access_cases h with ⟨a, rfl⟩ | ⟨a, data, rfl⟩
  · exact decide_eq_false hne
  · exact decide_eq_false hne

/-! ## What main alone reaches -/

/-- Whether a target is one of the chips, a reset line, or the star field. -/
def Target.isMains {p : Processor} : Target p → Bool
  | .io _ _ => true
  | .control (.secondaries _) | .control (.ioChips _) | .control (.starfield _) => true
  | .control (.interrupt _ _) => false
  | .ram _ | .rom _ | .watchdog | .unmapped => false

/-- Whether a place is one of the chips, a reset line, or the star field. -/
def AddressMap.Place.isMains : Place → Bool
  | .io _ _ | .secondaries _ | .ioChips _ | .starfield _ => true
  | .ram _ _ | .rom _ | .watchdog | .interrupt _ _ | .unmapped => false

theorem Target.isMains_place {p : Processor} (t : Target p) : t.place.isMains = t.isMains := by
  cases t with
  | control s => cases s <;> rfl
  | ram _ | rom _ | io _ _ | watchdog | unmapped => rfl

/-- **No address of sub or sound leads to a place of main.** -/
theorem AddressMap.isMains_place {p : Processor} (hp : p ≠ .main) (access : Access) (a : UInt16) :
    (place p access a).isMains = false := by
  have hrows : ∀ w ∈ windows p access, ∀ n, (w.place n).isMains = false := by
    cases p with
    | main => exact absurd rfl hp
    | sub | sound => cases access <;> simp [windows, videoWindows, upperProgramWindows, Place.isMains]
  by_cases hmapped : place p access a = .unmapped
  · rw [hmapped]
    rfl
  · obtain ⟨w, hw, -, hplace, -⟩ := exists_window hmapped
    rw [← hplace]
    exact hrows w hw _

/-- **The chips, the reset lines and the star field are main's alone.** -/
theorem AddressMap.isMains_decode {p : Processor} (hp : p ≠ .main) (a : UInt16) (access : Access) :
    (decode p a access).isMains = false := by
  rw [← Target.isMains_place, place_decode]
  exact isMains_place hp access a

/-! ## Changes -/

/-- A count of accesses that lead nowhere. -/
inductive Counter
  | unmappedReads
  | unmappedWrites
  | romWrites

/-- Counts one access more. -/
def Diagnostics.count (d : Diagnostics) : Counter → Diagnostics
  | .unmappedReads => { d with unmappedReads := d.unmappedReads + 1 }
  | .unmappedWrites => { d with unmappedWrites := d.unmappedWrites + 1 }
  | .romWrites => { d with romWrites := d.romWrites + 1 }

/-- It does not matter what is counted first. -/
theorem Diagnostics.count_comm (d : Diagnostics) (c c' : Counter) :
    (d.count c).count c' = (d.count c').count c := by
  cases c <;> cases c' <;> rfl

/-- What an access can do to a board, if main has no part in it. -/
inductive Change
  | nothing
  | store (cell : Cell) (data : UInt8)
  | switch (p : Processor) (on : Bool)
  /-- The watchdog of sound is serviced. -/
  | service
  | count (counter : Counter)

/-- The change that a read of a target makes. -/
def Target.readChange {p : Processor} : Target p → Change
  | .ram _ | .rom _ | .io _ _ => .nothing
  | .watchdog => .service
  | .control _ | .unmapped => .count .unmappedReads

/-- The change that a write to a target makes, unless it is main's. -/
def Target.writeChange {p : Processor} (data : UInt8) : Target p → Change
  | .ram cell => .store cell data
  | .rom _ => .count .romWrites
  | .watchdog => .service
  | .control (.interrupt q on) => .switch q on
  | .unmapped => .count .unmappedWrites
  | .io _ _ | .control _ => .nothing

/-- The change that an access makes. -/
def Operation.change : Operation → Change
  | .read p a => (decode p a .read).readChange
  | .write p a data => (decode p a .write).writeChange data
  | _ => .nothing

namespace Change

/-- A change concerns what belongs to a processor: a memory that it shares, its interrupt, its watchdog, or
the counts, which belong to everyone. -/
def BelongsTo (p : Processor) : Change → Prop
  | .nothing | .count _ => True
  | .store cell _ => cell.region.isOwnedBy p = true
  | .switch q _ => q = p
  | .service => p = .sound

end Change

/-- The only watchdog besides main's is that of sound. -/
theorem AddressMap.eq_sound_of_decode {p : Processor} {a : UInt16} {access : Access} (hp : p ≠ .main)
    (h : decode p a access = .watchdog) : p = .sound := by
  cases p with
  | main => exact absurd rfl hp
  | sub => exact absurd (decode_watchdog_iff.mp h) Bool.false_ne_true
  | sound => rfl

/-- **Sub and sound change nothing but their own.** -/
theorem Operation.belongsTo_change {op : Operation} {p : Processor} (h : op.isAccessOf p = true)
    (hp : p ≠ .main) : op.change.BelongsTo p := by
  rcases access_cases h with ⟨a, rfl⟩ | ⟨a, data, rfl⟩
  · show (decode p a .read).readChange.BelongsTo p
    cases hd : decode p a .read with
    | watchdog => exact eq_sound_of_decode hp hd
    | ram _ | rom _ | io _ _ | control _ | unmapped => trivial
  · show ((decode p a .write).writeChange data).BelongsTo p
    cases hd : decode p a .write with
    | ram cell => exact decode_ram_isOwnedBy hd
    | watchdog => exact eq_sound_of_decode hp hd
    | control s =>
      cases s with
      | interrupt q on => exact decode_interrupt hd
      | secondaries _ | ioChips _ | starfield _ => trivial
    | rom _ | io _ _ | unmapped => trivial

namespace Board

variable {S : Type} [SoundChip S] {p q : Processor}

/-- Makes a change. -/
def change (b : Board S) : Change → Board S
  | .nothing => b
  | .store cell data => { b with memory := b.memory.write cell data, sound := hear b.sound cell data }
  | .switch p on => { b with controls := b.controls.switchInterrupt p on }
  | .service => { b with soundWatchdog := b.soundWatchdog.service }
  | .count counter => { b with diagnostics := b.diagnostics.count counter }

/-- **An access of sub or sound makes its change**, and reports some of it. -/
theorem access_change (b : Board S) {op : Operation} (h : op.isAccessOf p = true) (hp : p ≠ .main) :
    (b.change op.change).Alike (b.perform op).2 := by
  rcases Operation.access_cases h with ⟨a, rfl⟩ | ⟨a, data, rfl⟩
  · show (b.change (decode p a .read).readChange).Alike (b.read p a).2
    obtain ⟨j, hj⟩ := b.read_snd p a
    rw [hj]
    cases hd : decode p a .read with
    | watchdog =>
      obtain rfl := eq_sound_of_decode hp hd
      exact .of_journal rfl
    | ram _ | rom _ | io _ _ | control _ | unmapped => exact .of_journal rfl
  · show (b.change ((decode p a .write).writeChange data)).Alike (b.write p a data)
    have hmains := isMains_decode hp a .write
    obtain ⟨j, hj⟩ := b.write_eq p a data
    rw [hj]
    cases hd : decode p a .write with
    | ram cell => exact .refl _
    | rom _ | unmapped => exact .of_journal rfl
    | watchdog =>
      obtain rfl := eq_sound_of_decode hp hd
      exact .refl _
    | io slot register => rw [hd] at hmains; cases hmains
    | control s =>
      cases s with
      | interrupt q on =>
        obtain ⟨k, hk⟩ := b.switchInterrupt_eq q on
        exact .of_journal hk
      | secondaries _ | ioChips _ | starfield _ => rw [hd] at hmains; cases hmains

/-- **A change by a processor that shares no memory with another** does not change what the other reads. -/
theorem answer_change (b : Board S) {op : Operation} {c : Change} (h : op.isAccessOf p = true)
    (hc : c.BelongsTo q) (hapart : ∀ r : Region, r.isOwnedBy q = true → r.isOwnedBy p = false) :
    ((b.change c).perform op).1 = (b.perform op).1 := by
  rcases Operation.access_cases h with ⟨a, rfl⟩ | ⟨a, data, rfl⟩
  · refine congrArg Answer.byte ?_
    unfold read
    cases hd : decode p a .read with
    | ram cell =>
      cases c with
      | store cell' data =>
        have hregion : cell.region ≠ cell'.region := region_ne_of_decode hd (hapart _ hc)
        have hcell : cell ≠ cell' := fun he => hregion (congrArg Cell.region he)
        exact SharedRam.read_write_of_ne b.memory data hcell
      | nothing | switch _ _ | service | count _ => rfl
    | rom _ | io _ _ | watchdog | control _ | unmapped => cases c <;> rfl
  · rfl

/-- **Changes by sub and by sound** may be made in either order. -/
theorem change_comm (b : Board S) {c d : Change} (hc : c.BelongsTo .sub) (hd : d.BelongsTo .sound) :
    (b.change c).change d = (b.change d).change c := by
  cases c with
  | nothing => rfl
  | store cell data =>
    cases d with
    | store cell' data' =>
      obtain ⟨r, i⟩ := cell
      obtain ⟨r', i'⟩ := cell'
      -- one of the cells is in the tile map or in work memory, the other in sound memory
      cases r' with
      | tilemap => cases hd
      | work => cases hd
      | sound =>
        cases r with
        | tilemap => rfl
        | work => rfl
        | sound => cases hc
    | nothing | switch _ _ | service | count _ => rfl
  | switch p on =>
    obtain rfl : p = .sub := hc
    cases d with
    | switch p' on' =>
      obtain rfl : p' = .sound := hd
      rfl
    | nothing | store _ _ | service | count _ => rfl
  | service => cases hc
  | count counter =>
    cases d with
    | count counter' =>
      show { b with diagnostics := (b.diagnostics.count counter).count counter' } = _
      rw [Diagnostics.count_comm]
      rfl
    | nothing | store _ _ | switch _ _ | service => rfl

end Board

/-! ## Independence -/

/-- **Every access of sub is independent of every access of sound.** -/
theorem Operation.sub_independent_sound {op other : Operation} (h : op.isAccessOf .sub = true)
    (hother : other.isAccessOf .sound = true) : op.Independent other := by
  have hchange := belongsTo_change h (by decide)
  have hchange' := belongsTo_change hother (by decide)
  constructor
  · intro S _ b
    have halike := b.access_change hother (by decide)
    rw [← (halike.perform op).1]
    exact b.answer_change h hchange' fun r => by cases r <;> decide
  · intro S _ b
    have halike := b.access_change h (by decide)
    rw [← (halike.perform other).1]
    exact b.answer_change hother hchange fun r => by cases r <;> decide
  · intro S _ b
    -- both boards are what the two changes make of the first
    have hlast := ((b.access_change hother (by decide)).perform op).2
    have hfirst := ((b.access_change h (by decide)).perform other).2
    have hop := (b.change other.change).access_change h (by decide)
    have hoth := (b.change op.change).access_change hother (by decide)
    rw [b.change_comm hchange hchange'] at hoth
    exact hlast.symm.trans (hop.symm.trans (hoth.trans hfirst))

namespace Board

variable {S : Type} [SoundChip S] {x y run : List Operation}

/-- Doing accesses of sub and of sound in turns is doing the ones and then the others, up to the order of
what comes back. -/
theorem history_secondaries (hx : ∀ op ∈ x, op.isAccessOf .sub = true)
    (hy : ∀ op ∈ y, op.isAccessOf .sound = true) (hrun : Interleaves x y run) (b : Board S) :
    Interleaves (b.history x) ((b.after x).history y) (b.history run) ∧
      (b.after run).Alike ((b.after x).after y) := by
  refine history_interleaves hrun ?_ b
  intro op hop other hother
  exact Operation.sub_independent_sound (hx op hop) (hy other hother)

/-- What the accesses of one of two processors give back, in whatever order both were done. -/
theorem filter_history (hx : ∀ op ∈ x, op.isAccessOf .sub = true)
    (hy : ∀ op ∈ y, op.isAccessOf .sound = true) (hrun : Interleaves x y run) (b : Board S) :
    (b.history run).filter (fun e => e.1.isAccessOf .sub) = b.history x ∧
      (b.history run).filter (fun e => e.1.isAccessOf .sound) = (b.after x).history y := by
  obtain ⟨hhistory, -⟩ := history_secondaries hx hy hrun b
  have hsub : ∀ e ∈ b.history x, e.1.isAccessOf .sub = true :=
    fun e he => hx e.1 (fst_mem_of_mem_history he)
  have hsound : ∀ e ∈ (b.after x).history y, e.1.isAccessOf .sound = true :=
    fun e he => hy e.1 (fst_mem_of_mem_history he)
  constructor
  · refine hhistory.filter_left hsub ?_
    intro e he
    exact Operation.isAccessOf_of_ne (hsound e he) (by decide)
  · refine hhistory.filter_right ?_ hsound
    intro e he
    exact Operation.isAccessOf_of_ne (hsub e he) (by decide)

/-- **Sub and sound do not meet.** Take any board, accesses of sub in one order and accesses of sound in
another, and any way to interleave the two. Compared with doing all of sub's first and then all of sound's,

- every access gives back the same;
- in the end the saved states are the same, the events still queued, and the sound generators (a recorder
  of all calls, say). -/
theorem secondaries_interleave (b : Board S) (hx : ∀ op ∈ x, op.isAccessOf .sub = true)
    (hy : ∀ op ∈ y, op.isAccessOf .sound = true) (hrun : Interleaves x y run) :
    ((b.history run).filter (fun e => e.1.isAccessOf .sub) =
        (b.history (x ++ y)).filter (fun e => e.1.isAccessOf .sub) ∧
      (b.history run).filter (fun e => e.1.isAccessOf .sound) =
        (b.history (x ++ y)).filter (fun e => e.1.isAccessOf .sound)) ∧
    (b.after run).state = (b.after (x ++ y)).state ∧
    (b.after run).io.events = (b.after (x ++ y)).io.events ∧
    (b.after run).sound = (b.after (x ++ y)).sound := by
  -- one after the other is an interleaving too
  have hsequence := Interleaves.append x y
  obtain ⟨hsub, hsound⟩ := filter_history hx hy hrun b
  obtain ⟨hsub', hsound'⟩ := filter_history hx hy hsequence b
  obtain ⟨-, halike⟩ := history_secondaries hx hy hrun b
  obtain ⟨-, halike'⟩ := history_secondaries hx hy hsequence b
  have hend := halike.trans halike'.symm
  refine ⟨⟨hsub.trans hsub'.symm, hsound.trans hsound'.symm⟩, ?_⟩
  exact ⟨hend.state, hend.events, hend.sound⟩

/-- Both write and read back a byte, enable their interrupts, and access what is not there; sound services
its watchdog. They take turns. -/
theorem secondaries_interleave_turns :
    let layout : IoLayout := ⟨⟨⟨.playerCoin, .part56⟩, ⟨.dipSwitch, .part58⟩⟩, true⟩
    let b := stock layout (.atRest 0xFF 0xF8) 8 (Recorded.fitted SoundRegisters.silent)
    let x : List Operation :=
      [.write .sub 0x0005 1, .read .sub 0x0005, .write .sub 0x6001 0, .read .sub 0x6001]
    let y : List Operation :=
      [.write .sound 0x0005 7, .read .sound 0x2000, .read .sound 0x0405, .write .sound 0x4000 0,
        .write .sound 0x8000 0]
    let run : List Operation :=
      [.write .sound 0x0005 7, .write .sub 0x0005 1, .read .sound 0x2000, .read .sub 0x0005,
        .read .sound 0x0405, .write .sound 0x4000 0, .write .sub 0x6001 0, .write .sound 0x8000 0,
        .read .sub 0x6001]
    (∀ op ∈ x, op.isAccessOf .sub = true) ∧ (∀ op ∈ y, op.isAccessOf .sound = true) ∧
      Interleaves x y run ∧ (b.after run).state = (b.after (x ++ y)).state ∧
      (b.history run).filter (fun e => e.1.isAccessOf .sub) =
        x.zip [.done, .byte 1, .done, .byte 0xFF] ∧
      (b.after run).sound.calls = [.write 5 7] := by
  intro layout b x y run
  have hx : ∀ op ∈ x, op.isAccessOf .sub = true := by decide
  have hy : ∀ op ∈ y, op.isAccessOf .sound = true := by decide
  have hrun : Interleaves x y run :=
    .right _ <| .left _ <| .right _ <| .left _ <| .right _ <| .right _ <| .left _ <| .right _ <| .left _ .nil
  obtain ⟨⟨hsub, -⟩, hstate, -, hsound⟩ := secondaries_interleave b hx hy hrun
  refine ⟨hx, hy, hrun, hstate, ?_, ?_⟩
  · rw [hsub]
    decide +kernel
  · rw [hsound]
    decide +kernel

end Board

end Arcade
