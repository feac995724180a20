import Arcade.Proofs.Board.Consistency
import Arcade.Proofs.Board.Encoding

/-!
# `Arcade.Proofs.Board.Acceptance` — which states a board takes, and what it makes of them

A board looks at the images of a saved state and at nothing else. If the three images have the tags and
the sizes of their places it takes the state, whole, and is from then on in exactly that state; if not, it
names the first image that does not fit, and is as it was. Restoring is written as a sequence of steps, each
of which either stops or changes one part of the board, so that a refusal that comes too late would show.

That the lines of the state agree is not asked. So a restored board is consistent exactly if the state that
was put into it is, and there are states that are not (`restore_takes_disagreeing_lines`).

## Contents
- `attempt`, `outcome`: steps that may stop, and how they end.
- `Board.restoreInPlace`: the steps of restoring, and `restoreInPlace_eq`: they do what `restore` says.
- `BoardState.ImagesFit`, `exists_restore_iff`: what is accepted.
- `BoardState.misfit?`, the first image that does not fit, and `restore_eq_error`.
- `state_restored`, `consistent_restored_iff`: what becomes of the board.
- `restore_takes_what_fits`.
- `Treatment`, `Board.treated`: operations and restored states one after the other.
-/

namespace Arcade

/-- A step that stops if there is a problem, and otherwise gives a value and changes nothing. -/
def attempt {ε α β : Type} : Except ε α → EStateM ε β α
  | .ok a => pure a
  | .error e => throw e

/-- What a function gives, as the end of steps that begin at `b`. A problem leaves everything as it was. -/
def outcome {ε β : Type} (b : β) : Except ε β → EStateM.Result ε β Unit
  | .ok b' => .ok () b'
  | .error e => .error e b

theorem outcome_eq_error {ε β : Type} {b b' : β} {result : Except ε β} {e : ε}
    (h : outcome b result = .error e b') : b' = b ∧ result = .error e := by
  cases result with
  | ok found => cases h
  | error problem =>
    cases h
    exact ⟨rfl, rfl⟩

theorem outcome_eq_ok {ε β : Type} {b b' : β} {result : Except ε β} (h : outcome b result = .ok () b') :
    result = .ok b' := by
  cases result with
  | ok found =>
    cases h
    rfl
  | error problem => cases h

/-! ## Restoring in place -/

namespace Board

variable {S : Type} [SoundChip S]

/-- Puts a board into a state, part by part. -/
def restoreInPlace (saved : BoardState) : EStateM ImageProblem (Board S) Unit := do
  let tilemap ← attempt (saved.memory.tilemap.fit .tilemap)
  let work ← attempt (saved.memory.work.fit .work)
  let sound ← attempt (saved.memory.sound.fit .sound)
  modify fun b => { b with memory := { tilemap, work, sound } }
  modify fun b => { b with controls := saved.controls }
  modify fun b => { b with io := b.io.restore saved.chips saved.inputs saved.outputs }
  modify fun b => { b with mainWatchdog := saved.mainWatchdog }
  modify fun b => { b with soundWatchdog := saved.soundWatchdog }
  modify fun b => { b with starfield := saved.starfield }
  modify fun b => { b with pendingReset := saved.pendingReset }
  modify fun b => { b with diagnostics := saved.diagnostics }
  modify fun b => { b with sound := SoundChip.setEnabled b.sound b.controls.soundOn }

/-- The steps put the board into the state, or stop with the board as it was. -/
theorem restoreInPlace_eq (saved : BoardState) (b : Board S) :
    restoreInPlace saved b =
      match b.restore saved with
      | .ok b' => .ok () b'
      | .error e => .error e b := by
  unfold restoreInPlace restore SharedRam.ofImages
  -- the images are looked at in order, and nothing after them can stop
  cases saved.memory.tilemap.fit .tilemap with
  | error e => rfl
  | ok tilemap =>
    cases saved.memory.work.fit .work with
    | error e => rfl
    | ok work =>
      cases saved.memory.sound.fit .sound with
      | error e => rfl
      | ok sound => rfl

end Board

/-! ## What is accepted -/

/-- The images of a state carry the tags of their places and have the right sizes. -/
def BoardState.ImagesFit (saved : BoardState) : Prop :=
  ∀ r, (saved.memory.get r).region = r ∧ (saved.memory.get r).bytes.length = r.size

theorem MemoryImage.exists_fit_iff (i : MemoryImage) (place : Region) :
    (∃ m, i.fit place = .ok m) ↔ i.region = place ∧ i.bytes.length = place.size := by
  unfold MemoryImage.fit
  by_cases h : i.region = place ∧ i.bytes.length = place.size
  · rw [dif_pos h]
    exact ⟨fun _ => h, fun _ => ⟨_, rfl⟩⟩
  · rw [dif_neg h]
    exact ⟨fun ⟨_, hm⟩ => (nomatch hm), fun h' => absurd h' h⟩

theorem SharedRam.ofImages_eq_ok {images : MemoryImages} {m : SharedRam} :
    SharedRam.ofImages images = .ok m ↔
      images.tilemap.fit .tilemap = .ok m.tilemap ∧ images.work.fit .work = .ok m.work ∧
        images.sound.fit .sound = .ok m.sound := by
  obtain ⟨tilemap, work, sound⟩ := m
  unfold SharedRam.ofImages
  cases images.tilemap.fit .tilemap with
  | error e => exact ⟨nofun, fun h => nomatch h.1⟩
  | ok t =>
    cases images.work.fit .work with
    | error e => exact ⟨nofun, fun h => nomatch h.2.1⟩
    | ok w =>
      cases images.sound.fit .sound with
      | error e => exact ⟨nofun, fun h => nomatch h.2.2⟩
      | ok d =>
        constructor
        · intro h
          cases h
          exact ⟨rfl, rfl, rfl⟩
        · rintro ⟨ht, hw, hd⟩
          cases ht
          cases hw
          cases hd
          rfl

/-- **A board takes exactly the states whose images fit.** -/
theorem Board.exists_restore_iff {S : Type} [SoundChip S] (b : Board S) (saved : BoardState) :
    (∃ b', b.restore saved = .ok b') ↔ saved.ImagesFit := by
  have hfit (r : Region) := (saved.memory.get r).exists_fit_iff r
  unfold restore
  constructor
  · rintro ⟨b', h⟩
    cases hmemory : SharedRam.ofImages saved.memory with
    | error e =>
      rw [hmemory] at h
      cases h
    | ok m =>
      obtain ⟨htilemap, hwork, hsound⟩ := SharedRam.ofImages_eq_ok.mp hmemory
      intro r
      cases r with
      | tilemap => exact (hfit .tilemap).mp ⟨_, htilemap⟩
      | work => exact (hfit .work).mp ⟨_, hwork⟩
      | sound => exact (hfit .sound).mp ⟨_, hsound⟩
  · intro h
    obtain ⟨tilemap, htilemap⟩ := (hfit .tilemap).mpr (h .tilemap)
    obtain ⟨work, hwork⟩ := (hfit .work).mpr (h .work)
    obtain ⟨sound, hsound⟩ := (hfit .sound).mpr (h .sound)
    have hmemory := (SharedRam.ofImages_eq_ok (m := { tilemap, work, sound })).mpr
      ⟨htilemap, hwork, hsound⟩
    rw [hmemory]
    exact ⟨_, rfl⟩

/-! ## What is refused -/

/-- What there is to say about an image that does not fit its place. -/
def MemoryImage.misfit? (i : MemoryImage) (place : Region) : Option ImageProblem :=
  if i.region = place ∧ i.bytes.length = place.size then none
  else some ⟨place, i.region, i.bytes.length⟩

/-- The first image, in the order of the regions, that does not fit its place. -/
def BoardState.misfit? (saved : BoardState) : Option ImageProblem :=
  Region.all.findSome? fun r => (saved.memory.get r).misfit? r

/-- Whether a check succeeds, and with what it fails. -/
theorem MemoryImage.misfit?_eq (i : MemoryImage) (place : Region) :
    i.misfit? place =
      match i.fit place with
      | .ok _ => none
      | .error e => some e := by
  unfold misfit? fit
  split <;> rfl

/-- The images are looked at in the order of the regions, up to the one that is refused. -/
theorem BoardState.misfit?_eq (saved : BoardState) :
    saved.misfit? =
      match SharedRam.ofImages saved.memory with
      | .ok _ => none
      | .error e => some e := by
  unfold misfit? Region.all SharedRam.ofImages
  simp only [List.findSome?_cons, List.findSome?_nil, MemoryImage.misfit?_eq, MemoryImages.get]
  cases saved.memory.tilemap.fit .tilemap with
  | error e => rfl
  | ok tilemap =>
    cases saved.memory.work.fit .work with
    | error e => rfl
    | ok work =>
      cases saved.memory.sound.fit .sound with
      | error e => rfl
      | ok sound => rfl

/-! ## What is taken over -/

theorem MemoryImage.fit_eq_ok {i : MemoryImage} {place : Region} {m : Vector UInt8 place.size}
    (h : i.fit place = .ok m) : i = ⟨place, m.toList⟩ := by
  unfold fit at h
  split at h
  · next hfits =>
    cases h
    obtain ⟨region, bytes⟩ := i
    obtain rfl : region = place := hfits.1
    rfl
  · cases h

/-- The images that were accepted are those of the memories. -/
theorem SharedRam.images_ofImages {images : MemoryImages} {m : SharedRam}
    (h : SharedRam.ofImages images = .ok m) : m.images = images := by
  obtain ⟨htilemap, hwork, hsound⟩ := SharedRam.ofImages_eq_ok.mp h
  obtain ⟨tilemap, work, sound⟩ := images
  obtain rfl : tilemap = _ := MemoryImage.fit_eq_ok htilemap
  obtain rfl : work = _ := MemoryImage.fit_eq_ok hwork
  obtain rfl : sound = _ := MemoryImage.fit_eq_ok hsound
  rfl

namespace Board

variable {S : Type} [SoundChip S] {b b' : Board S} {saved : BoardState}

theorem restore_eq_ok (h : b.restore saved = .ok b') :
    ∃ m, SharedRam.ofImages saved.memory = .ok m ∧
      b' =
        { b with
          memory := m
          controls := saved.controls
          io := b.io.restore saved.chips saved.inputs saved.outputs
          mainWatchdog := saved.mainWatchdog
          soundWatchdog := saved.soundWatchdog
          starfield := saved.starfield
          pendingReset := saved.pendingReset
          diagnostics := saved.diagnostics
          sound := SoundChip.setEnabled b.sound saved.controls.soundOn } := by
  unfold restore at h
  cases hm : SharedRam.ofImages saved.memory with
  | error e =>
    rw [hm] at h
    cases h
  | ok m =>
    rw [hm] at h
    cases h
    exact ⟨m, rfl, rfl⟩

theorem restore_eq_error {e : ImageProblem} (h : b.restore saved = .error e) : saved.misfit? = some e := by
  unfold restore at h
  rw [BoardState.misfit?_eq]
  cases hm : SharedRam.ofImages saved.memory with
  | error e' =>
    rw [hm] at h
    cases h
    rfl
  | ok m =>
    rw [hm] at h
    cases h

/-- **A restored board is in exactly the state that was put into it.** -/
theorem state_restored (h : b.restore saved = .ok b') : b'.state = saved := by
  obtain ⟨m, hm, rfl⟩ := restore_eq_ok h
  have himages := SharedRam.images_ofImages hm
  obtain ⟨memory, controls, chips, inputs, outputs, main, sound, starfield, pending, diagnostics⟩ := saved
  obtain rfl : m.images = memory := himages
  rfl

/-- **A restored board is consistent, now and after every history, exactly if the state is.** -/
theorem consistent_restored_iff (h : b.restore saved = .ok b') :
    saved.Consistent ↔ ∀ ops, (b'.after ops).state.Consistent := by
  have hstate := state_restored h
  constructor
  · intro hconsistent ops
    rw [← hstate] at hconsistent
    exact hconsistent.after ops
  · intro hafter
    rw [← hstate]
    exact hafter []

/-- **A board takes the states whose images fit, as they are, and no others.** If the images fit, the steps of
restoring succeed, the board is in exactly the saved state, and the lines of the board agree from then on,
whatever is done to it, exactly if those of the state do. If not, the steps stop, the problem is the first
image that does not fit, and the board is as it was. -/
theorem restore_takes_what_fits (b : Board S) (saved : BoardState) :
    (saved.ImagesFit ∧ ∃ b', restoreInPlace saved b = .ok () b' ∧ b'.state = saved ∧
        (saved.Consistent ↔ ∀ ops, (b'.after ops).state.Consistent)) ∨
      (¬ saved.ImagesFit ∧ ∃ e, restoreInPlace saved b = .error e b ∧ saved.misfit? = some e) := by
  rw [restoreInPlace_eq]
  cases h : b.restore saved with
  | ok b' =>
    have hfit := (b.exists_restore_iff saved).mp ⟨b', h⟩
    exact .inl ⟨hfit, b', rfl, state_restored h, consistent_restored_iff h⟩
  | error e =>
    have hmisfit : ¬ saved.ImagesFit := by
      intro hfit
      obtain ⟨b', hb'⟩ := (b.exists_restore_iff saved).mpr hfit
      rw [h] at hb'
      cases hb'
    exact .inr ⟨hmisfit, e, rfl, restore_eq_error h⟩

/-- A state in which nothing agrees but the images: interrupts are raised behind disabled latches, sound is
on while sub and sound are held, chips that run are in reset and raise interrupts, one watchdog has no
period and the other has passed its own. It is read back as it was written, and a board that has just been
switched on takes it. -/
theorem restore_takes_disagreeing_lines :
    let layout : IoLayout := ⟨⟨⟨.playerCoin, .part56⟩, ⟨.dipSwitch, .part58⟩⟩, true⟩
    let b := stock layout (.atRest 0xFF 0xF8) 8 SoundRegisters.silent
    let saved : BoardState :=
      { b.state with
        controls :=
          { latches := .replicate { enabled := false, line := true }
            secondariesHeld := true
            chipsHeld := false
            soundOn := true }
        chips := .replicate { reset := true, irqLine := true, pulses := 0 }
        mainWatchdog := { period := 0, elapsed := 0, serviced := false, expirations := 0 }
        soundWatchdog := { period := 8, elapsed := 8, serviced := false, expirations := 0 } }
    Reachable .silent b ∧ BoardState.ofJson? saved.toJson = some saved ∧
      ∃ b', b.restore saved = .ok b' ∧ b'.state = saved ∧
        (∀ p, (saved.controls.latches.get p).line = true ∧ (saved.controls.latches.get p).enabled = false) ∧
        saved.controls.soundOn = saved.controls.secondariesHeld ∧
        (∀ i, (saved.chips.get i).reset = !saved.controls.chipsHeld ∧ (saved.chips.get i).irqLine = true) ∧
        ¬ 1 ≤ saved.mainWatchdog.period ∧ ¬ saved.soundWatchdog.elapsed < saved.soundWatchdog.period ∧
        ¬ b'.state.Consistent := by
  intro layout b saved
  have hfit : saved.ImagesFit := fun r => SharedRam.images_fit _ r
  obtain ⟨b', hb'⟩ := (b.exists_restore_iff saved).mpr hfit
  have hstate := state_restored hb'
  refine ⟨.powerOn (powerOn_eq _ _ _ _), BoardState.reads saved, b', hb', hstate, ?_, rfl, ?_, by decide,
    by decide, ?_⟩
  · intro p
    cases p <;> exact ⟨rfl, rfl⟩
  · intro i
    match i with
    | 0 => exact ⟨rfl, rfl⟩
    | 1 => exact ⟨rfl, rfl⟩
  · intro h
    rw [hstate] at h
    have hsound : true = false := h.sound_follows
    cases hsound

end Board

/-! ## Restored states among operations -/

/-- An operation, or a saved state that is put into the board. -/
inductive Treatment
  | operation (op : Operation)
  | restore (saved : BoardState)

namespace Board

variable {S : Type} [SoundChip S]

/-- Does one thing to a board. A state that is refused leaves the board as it is. -/
def treat (b : Board S) : Treatment → Board S
  | .operation op => (b.perform op).2
  | .restore saved =>
    match b.restore saved with
    | .ok b' => b'
    | .error _ => b

/-- The board after some treatments. -/
def treated (b : Board S) : List Treatment → Board S
  | [] => b
  | t :: run => (b.treat t).treated run

end Board

end Arcade
