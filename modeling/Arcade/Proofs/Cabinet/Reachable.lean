import Arcade.Cabinet.SaveState
import Arcade.Proofs.Board.Operation
import Arcade.Proofs.Config

/-!
# `Arcade.Proofs.Cabinet.Reachable` — the cabinets that can come about

A cabinet is put together for a configuration, and then a host runs it, resets it, mounts and unmounts
programs, does things to its board, and loads save states. Any value that is accepted may be loaded, and
any state that fits may be put into the board behind the cabinet's back, so that what holds of every
reachable cabinet holds however a host treats it.

## Contents
- `Cabinet.stock`, `assemble_eq`: putting a cabinet together for a valid configuration never fails.
- `mount_eq_ok`, `unmount_eq_ok`, `loadState_eq_ok`: what an attempt that succeeds has done.
- `Cabinet.Reachable`.
- `Reachable.revision_mem`: the revision is always one of the known ones.
-/

namespace Arcade

/-- Every known revision has a name. -/
theorem Revision.name_ne_empty {r : Revision} (h : r ∈ Revision.all) : r.name ≠ "" := by
  have hall : ∀ r ∈ Revision.all, r.name ≠ "" := by decide
  exact hall r h

namespace Cabinet

/-! ## Putting a cabinet together -/

/-- A cabinet of a revision for a configuration, before its first frame. -/
def stock {σ S : Type} (config : Config) (r : Revision) (interpreters : PerProcessor σ) (sound : S)
    (journal : Journal) : Cabinet σ S :=
  let inputs := Inputs.atRest (config.dipAFor r) (config.dipBFor r)
  let board := Board.stock (config.layoutFor r) inputs config.watchdogFrames sound
  let started := journal.note (.powerOn r.name r.description r.year)
  { revision := r
    config := config
    machine := .assemble { board with journal := started } interpreters config.sliceCycles
    frame := 0
    lastSync := .quiet
    mismatches := .replicate [] }

/-- **For a valid configuration there is always a cabinet.** -/
theorem assemble_eq {σ S : Type} {config : Config} {r : Revision} (h : config.check = .ok r)
    (interpreters : PerProcessor σ) (sound : S) (journal : Journal) :
    assemble config interpreters sound journal = .ok (stock config r interpreters sound journal) := by
  unfold assemble
  rw [h]
  simp only [Board.powerOn_eq]
  rfl

/-- A cabinet that was put together is one of the revision that is configured. -/
theorem assemble_eq_ok {σ S : Type} {config : Config} {interpreters : PerProcessor σ} {sound : S}
    {journal : Journal} {s : Cabinet σ S} (h : assemble config interpreters sound journal = .ok s) :
    ∃ r, config.check = .ok r ∧ s = stock config r interpreters sound journal := by
  cases hr : config.check with
  | error problem =>
    unfold assemble at h
    rw [hr] at h
    cases h
  | ok r =>
    rw [assemble_eq hr] at h
    cases h
    exact ⟨r, rfl, rfl⟩

/-! ## Reachable cabinets -/

variable {σ S : Type}

section Host

variable [Interpreter σ] [SoundChip S]

/-- What a host can have made of a cabinet. -/
inductive Reachable : Cabinet σ S → Prop
  | assemble {config : Config} {interpreters : PerProcessor σ} {sound : S} {journal : Journal}
      {s : Cabinet σ S} (h : assemble config interpreters sound journal = .ok s) : Reachable s
  | stepFrame {s : Cabinet σ S} (h : Reachable s) : Reachable s.stepFrame
  | reset {s : Cabinet σ S} (h : Reachable s) : Reachable s.reset
  | mount {s t : Cabinet σ S} {id : String} {image : List UInt8} (h : Reachable s)
      (ht : s.mount id image = .ok t) : Reachable t
  | unmount {s t : Cabinet σ S} {id : String} (h : Reachable s) (ht : s.unmount id = .ok t) :
      Reachable t
  /-- Bus traffic, inputs, and whatever else a host does to the board itself. -/
  | perform {s : Cabinet σ S} (op : Operation) (h : Reachable s) :
      Reachable (s.mapBoard fun b => (b.perform op).2)
  | restore {s : Cabinet σ S} {saved : BoardState} {b : Board S} (h : Reachable s)
      (hb : s.board.restore saved = .ok b) : Reachable (s.mapBoard fun _ => b)
  | loadState {s t : Cabinet σ S} {v : Json} (h : Reachable s) (ht : s.loadState v = .ok t) :
      Reachable t

end Host

/-! ## What an attempt that succeeds has done -/

theorem mount_eq_ok {s t : Cabinet σ S} {id : String} {image : List UInt8}
    (h : s.mount id image = .ok t) :
    ∃ b found, t = { s with machine := { s.machine with board := b }, mismatches := found } := by
  unfold mount at h
  split at h
  · cases h
  split at h
  · cases h
  · cases h
    exact ⟨_, _, rfl⟩

theorem unmount_eq_ok {s t : Cabinet σ S} {id : String} (h : s.unmount id = .ok t) :
    ∃ b found, t = { s with machine := { s.machine with board := b }, mismatches := found } := by
  unfold unmount at h
  split at h
  · cases h
  · cases h
    exact ⟨_, _, rfl⟩

variable [Interpreter σ] [SoundChip S]

theorem loadState_eq_ok {s t : Cabinet σ S} {v : Json} (h : s.loadState v = .ok t) :
    ∃ saved b, SaveState.check s.revision.name v = .ok saved ∧ s.board.restore saved.board = .ok b ∧
      t =
        { s with
          machine := ({ s.machine with board := b } : Machine σ S).syncLines
          frame := saved.frame } := by
  unfold loadState at h
  split at h
  · cases h
  next saved hsaved =>
  split at h
  · cases h
  next b hb =>
  cases h
  exact ⟨saved, b, hsaved, hb, rfl⟩

/-! ## The revision -/

/-- **The revision of a cabinet is always a known one.** -/
theorem Reachable.revision_mem {s : Cabinet σ S} (h : Reachable s) : s.revision ∈ Revision.all := by
  induction h with
  | assemble hs =>
    obtain ⟨r, hr, rfl⟩ := assemble_eq_ok hs
    exact List.mem_of_find?_eq_some (Config.check_eq_ok.mp hr).2.2
  | stepFrame _ ih | reset _ ih | perform _ _ ih | restore _ _ ih => exact ih
  | mount _ ht ih =>
    obtain ⟨_, _, rfl⟩ := mount_eq_ok ht
    exact ih
  | unmount _ ht ih =>
    obtain ⟨_, _, rfl⟩ := unmount_eq_ok ht
    exact ih
  | loadState _ ht ih =>
    obtain ⟨_, _, -, -, rfl⟩ := loadState_eq_ok ht
    exact ih

end Cabinet

end Arcade
