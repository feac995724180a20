import Arcade.Proofs.Board.Acceptance
import Arcade.Proofs.Cabinet.SaveState

/-!
# `Arcade.Proofs.Cabinet.LoadInPlace` — loading is all or nothing

`Cabinet.loadState` gives a new cabinet or a problem, so it cannot leave a cabinet half loaded. A machine
that is loaded in place can: a problem that turns up late finds what was done before it. Here the same
load is written as a sequence of steps on one cabinet, in the order in which they happen, each of which
either stops or changes one part (`Cabinet.loadInPlace`). When it stops, whatever the steps before it have
changed stays changed. The two agree, and what has been stopped has changed nothing, because every step
that can stop comes before every step that changes something.

What is accepted is described by the value alone (`SaveState.Fits`).

## Contents
- `Cabinet.loadInPlace`: the steps, with those of `Board.restoreInPlace` among them.
- `loadInPlace_eq`: they do what `loadState` says.
- `SaveState.Fits`, `exists_loadState_iff`: what is accepted.
- `Cabinet.load_all_or_nothing`.
-/

namespace Arcade

/-! ## The steps -/

namespace Cabinet

variable {σ S : Type} [SoundChip S]

/-- A step of a cabinet that is done to its board. What the step leaves of the board, the cabinet has,
even if the step stops. -/
def onBoard {ε : Type} (problem : ε → LoadProblem) (step : EStateM ε (Board S) Unit) :
    EStateM LoadProblem (Cabinet σ S) Unit := fun s =>
  match step s.machine.board with
  | .ok () b => .ok () (s.mapBoard fun _ => b)
  | .error e b => .error (problem e) (s.mapBoard fun _ => b)

theorem onBoard_restoreInPlace (saved : BoardState) (s : Cabinet σ S) :
    onBoard LoadProblem.memory (Board.restoreInPlace saved) s =
      match s.board.restore saved with
      | .ok b => .ok () (s.mapBoard fun _ => b)
      | .error e => .error (.memory e) s := by
  unfold onBoard board
  rw [Board.restoreInPlace_eq]
  cases s.machine.board.restore saved with
  | error e => rfl
  | ok b => rfl

variable [Interpreter σ]

/-- Loads a save state into a cabinet, step by step. -/
def loadInPlace (v : Json) : EStateM LoadProblem (Cabinet σ S) Unit := do
  if (v.get? "system").bind Json.asString? ≠ some SaveState.mark then throw .foreign
  let version := (v.get? "version").bind (Json.asBelow? UInt64.size)
  if version ≠ some SaveState.version then throw (.version version)
  let running := (← get).revision.name
  let revision := ((v.get? "revision").bind Json.asString?).getD ""
  if !Revision.sameName revision running then throw (.revision revision running)
  let some frame := (v.get? "frame").bind Json.asUInt64? | throw .malformed
  let some board := (v.get? "board").bind BoardState.ofJson? | throw .malformed
  onBoard .memory (Board.restoreInPlace board)
  modify fun s => { s with frame := frame }
  modify fun s => { s with machine := s.machine.syncLines }

/-- **The steps load what `loadState` loads**, or stop with its problem and the cabinet as it was. -/
theorem loadInPlace_eq (v : Json) (s : Cabinet σ S) :
    loadInPlace v s =
      match s.loadState v with
      | .ok s' => .ok () s'
      | .error e => .error e s := by
  unfold loadInPlace loadState SaveState.check
  by_cases hsystem : (v.get? "system").bind Json.asString? ≠ some SaveState.mark
  · rw [if_pos hsystem, if_pos hsystem]
    rfl
  rw [if_neg hsystem, if_neg hsystem]
  dsimp only
  by_cases hversion : (v.get? "version").bind (Json.asBelow? UInt64.size) ≠ some SaveState.version
  · rw [if_pos hversion, if_pos hversion]
    rfl
  rw [if_neg hversion, if_neg hversion]
  generalize hfound : ((v.get? "revision").bind Json.asString?).getD "" = found
  show (if (!Revision.sameName found s.revision.name) = true then _ else _ : EStateM LoadProblem _ Unit) s = _
  by_cases hrevision : (!Revision.sameName found s.revision.name) = true
  · rw [if_pos hrevision, if_pos hrevision]
    rfl
  rw [if_neg hrevision, if_neg hrevision]
  cases (v.get? "frame").bind Json.asUInt64? with
  | none => rfl
  | some frame =>
    cases (v.get? "board").bind BoardState.ofJson? with
    | none => rfl
    | some board =>
      -- only the board's own check is left, and the changes come after it
      show EStateM.bind (onBoard .memory (Board.restoreInPlace board)) _ s = _
      unfold EStateM.bind
      rw [onBoard_restoreInPlace]
      dsimp only [Cabinet.board]
      cases s.machine.board.restore board with
      | error e => rfl
      | ok b => rfl

end Cabinet

/-! ## What is accepted -/

namespace SaveState

/-- What a value must be like for a machine of a revision to take it. -/
structure Fits (revision : String) (v : Json) : Prop where
  system : v.get? "system" = some (.string mark)
  version : v.get? "version" = some (.nat version)
  /-- It is for the revision, in whatever case the name is written. -/
  revision : ∃ name, v.get? "revision" = some (.string name) ∧ Revision.sameName name revision = true
  /-- The frame number is a natural number of 64 bits. -/
  frame : ∃ n, n < UInt64.size ∧ v.get? "frame" = some (.nat n)
  board : ∃ w saved, v.get? "board" = some w ∧ BoardState.ofJson? w = some saved ∧ saved.ImagesFit

/-- No name differs from the empty one only in case. -/
theorem not_sameName_empty {revision : String} (h : revision ≠ "") :
    Revision.sameName "" revision = false := by
  apply decide_eq_false
  intro hsame
  have hnil : revision.toList = [] := List.map_eq_nil_iff.mp hsame.symm
  exact h (String.toList_eq_nil_iff.mp hnil)

/-- A value fits exactly if its parts are found and the images of its board fit. -/
theorem fits_iff_holds {revision : String} (hname : revision ≠ "") {v : Json} :
    Fits revision v ↔ ∃ saved, Holds revision v saved ∧ saved.board.ImagesFit := by
  constructor
  · rintro ⟨hsystem, hversion, ⟨name, hrevision, hsame⟩, ⟨n, hn, hframe⟩, w, board, hw, hboard, hfit⟩
    refine ⟨⟨UInt64.ofNat n, board⟩, ?_, hfit⟩
    exact
      { system := by rw [hsystem]; rfl
        version := by rw [hversion, Option.bind_some]; exact Json.asBelow?_nat (by decide)
        revision := by rw [hrevision]; exact hsame
        frame := by rw [hframe, Option.bind_some, Json.asUInt64?, Json.asBelow?_nat hn]; rfl
        board := by rw [hw]; exact hboard }
  · rintro ⟨saved, h, hfit⟩
    obtain ⟨system, hsystem, hmark⟩ := Option.bind_eq_some_iff.mp h.system
    obtain ⟨found, hfound, hversion⟩ := Option.bind_eq_some_iff.mp h.version
    obtain ⟨frame, hframe, hread⟩ := Option.bind_eq_some_iff.mp h.frame
    obtain ⟨n, hn, -⟩ := Option.map_eq_some_iff.mp hread
    obtain ⟨w, hw, hboard⟩ := Option.bind_eq_some_iff.mp h.board
    obtain ⟨hlt, rfl⟩ := Json.asBelow?_eq_some.mp hn
    cases Json.asString?_eq_some.mp hmark
    obtain ⟨-, rfl⟩ := Json.asBelow?_eq_some.mp hversion
    refine
      { system := hsystem, version := hfound, revision := ?_, frame := ⟨n, hlt, hframe⟩
        board := ⟨w, saved.board, hw, hboard, hfit⟩ }
    cases hrevision : (v.get? "revision").bind Json.asString? with
    | none =>
      -- a name that is not there counts as the empty one, which no revision has
      have hsame := h.revision
      rw [hrevision, Option.getD_none, not_sameName_empty hname] at hsame
      cases hsame
    | some name =>
      obtain ⟨u, hu, hname⟩ := Option.bind_eq_some_iff.mp hrevision
      cases Json.asString?_eq_some.mp hname
      have hsame := h.revision
      rw [hrevision] at hsame
      exact ⟨name, hu, hsame⟩

end SaveState

namespace Cabinet

variable {σ S : Type} [Interpreter σ] [SoundChip S]

/-- A cabinet of a revision with a name takes exactly the values that fit. -/
theorem exists_loadState_iff {s : Cabinet σ S} (hname : s.revision.name ≠ "") (v : Json) :
    (∃ s', s.loadState v = .ok s') ↔ SaveState.Fits s.revision.name v := by
  rw [SaveState.fits_iff_holds hname]
  constructor
  · rintro ⟨s', h⟩
    obtain ⟨saved, b, hcheck, hrestore, -⟩ := loadState_eq_ok h
    exact ⟨saved, SaveState.check_eq_ok.mp hcheck, (s.board.exists_restore_iff _).mp ⟨b, hrestore⟩⟩
  · rintro ⟨saved, hholds, hfit⟩
    obtain ⟨b, hrestore⟩ := (s.board.exists_restore_iff _).mpr hfit
    unfold loadState
    rw [SaveState.check_eq_ok.mpr hholds]
    dsimp only
    rw [hrestore]
    exact ⟨_, rfl⟩

/-- **Loading is all or nothing.** Take any cabinet that can come about and any value. If the steps of
loading stop with a problem, the cabinet is in every part as it was before them, and if they come to
their end they have made what `loadState` gives. A load succeeds exactly for the values that fit: those
with the mark, the version, the name of the revision, a frame number, and a board whose images all have
their own tag and their exact size. -/
theorem load_all_or_nothing {s : Cabinet σ S} (h : s.Reachable) (v : Json) :
    (∀ e s', loadInPlace v s = .error e s' → s' = s ∧ s.loadState v = .error e) ∧
      (∀ s', loadInPlace v s = .ok () s' → s.loadState v = .ok s') ∧
      ((∃ s', s.loadState v = .ok s') ↔ SaveState.Fits s.revision.name v) := by
  have hname : s.revision.name ≠ "" := Revision.name_ne_empty h.revision_mem
  refine ⟨?_, ?_, exists_loadState_iff hname v⟩
  · intro e s' hstop
    rw [loadInPlace_eq] at hstop
    cases hload : s.loadState v with
    | ok loaded =>
      rw [hload] at hstop
      cases hstop
    | error problem =>
      rw [hload] at hstop
      cases hstop
      exact ⟨rfl, rfl⟩
  · intro s' hend
    rw [loadInPlace_eq] at hend
    cases hload : s.loadState v with
    | ok loaded =>
      rw [hload] at hend
      cases hend
      rfl
    | error problem =>
      rw [hload] at hend
      cases hend

/-- The name of the revision is given in capitals. With the images of a board the value is taken. With the
image of work memory in the place of sound memory it is found out last, and nothing has changed. -/
theorem load_all_or_nothing_wrong_image :
    let stock := Cabinet.stock Config.standard (Revision.all.head nofun) idleInterpreters
      SoundRegisters.silent .silent
    let saved := stock.board.state
    let mixed := { saved with memory := { saved.memory with sound := saved.memory.work } }
    let value (board : BoardState) : Json := .object
      [("system", .string "gaplus"), ("version", .integer 1), ("revision", .string "GAPLUS"),
        ("frame", .integer 7), ("board", board.toJson)]
    stock.Reachable ∧ (∃ s', stock.loadState (value saved) = .ok s') ∧
      ∃ e, loadInPlace (value mixed) stock = .error e stock := by
  intro stock saved mixed value
  have hreachable : stock.Reachable := .assemble (assemble_eq rfl ..)
  have hheld (board : BoardState) : SaveState.Holds "gaplus" (value board) ⟨7, board⟩ :=
    { system := rfl, version := rfl, frame := rfl
      revision := show Revision.sameName "GAPLUS" "gaplus" = true by decide +kernel
      board := BoardState.reads board }
  have hname : stock.revision.name ≠ "" := Revision.name_ne_empty hreachable.revision_mem
  refine ⟨hreachable, ?_, ?_⟩
  · obtain ⟨-, -, htaken⟩ := load_all_or_nothing hreachable (value saved)
    exact htaken.mpr ((SaveState.fits_iff_holds hname).mpr
      ⟨_, hheld saved, (stock.board.exists_restore_iff saved).mp ⟨_, Board.restore_state _ _⟩⟩)
  · obtain ⟨hnothing, hall, htaken⟩ := load_all_or_nothing hreachable (value mixed)
    cases hload : loadInPlace (value mixed) stock with
    | ok u s' =>
      obtain ⟨found, hfound, hfit⟩ := (SaveState.fits_iff_holds hname).mp (htaken.mp ⟨s', hall s' hload⟩)
      have hsame : found = ⟨7, mixed⟩ := Except.ok.inj
        ((SaveState.check_eq_ok.mpr hfound).symm.trans (SaveState.check_eq_ok.mpr (hheld mixed)))
      rw [hsame] at hfit
      exact nomatch (hfit .sound).1
    | error e s' =>
      obtain ⟨rfl, -⟩ := hnothing e s' hload
      exact ⟨e, rfl⟩

end Cabinet

end Arcade
