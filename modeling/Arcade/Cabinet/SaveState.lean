import Arcade.Board.State
import Arcade.Cabinet.Basic

/-!
# `Arcade.Cabinet.SaveState` — saving a cabinet and loading it again

A save state is a JSON value that says what saved it, in which version, for which revision and at
which frame, and holds the state of the board. Loading checks all of it, in that order, before
anything changes.

## Contents
- `LoadProblem` and its wording.
- `Cabinet.saveState`, `Cabinet.loadState`.
-/

namespace Arcade

/-- Why a save state cannot be loaded. -/
inductive LoadProblem
  /-- It was not saved by a machine of this kind. -/
  | foreign
  /-- Its version, if it has one, is not known. -/
  | version (found : Option Nat)
  /-- It was saved by another revision. -/
  | revision (found running : String)
  /-- Its frame number or its board is not of the right shape. -/
  | malformed
  /-- Its memories do not fit. -/
  | memory (problem : ImageProblem)
  deriving DecidableEq, Repr

/-- The wording of a problem. -/
def LoadProblem.message : LoadProblem → String
  | .foreign => "not a gaplus save state"
  | .version none => "unsupported save state version None"
  | .version (some n) => s!"unsupported save state version Some({n})"
  | .revision found running => s!"save state is for '{found}', running '{running}'"
  | .malformed => "malformed"
  | .memory p => p.message

/-- A save state whose parts have been checked against a revision. -/
structure SavedGame where
  frame : UInt64
  board : BoardState

namespace SaveState

/-- The mark of the machines that save in this form. -/
def mark : String := "gaplus"

/-- The version of this form. -/
def version : Nat := 1

/-- The parts of a save state for a revision, or the first thing wrong with it. -/
def check (revision : String) (v : Json) : Except LoadProblem SavedGame :=
  if (v.get? "system").bind Json.asString? ≠ some mark then .error .foreign
  else
    let found := (v.get? "version").bind (Json.asBelow? UInt64.size)
    if found ≠ some version then .error (.version found)
    else
      let saved := ((v.get? "revision").bind Json.asString?).getD ""
      if !Revision.sameName saved revision then .error (.revision saved revision)
      else
        match (v.get? "frame").bind Json.asUInt64? with
        | none => .error .malformed
        | some frame =>
          match (v.get? "board").bind BoardState.ofJson? with
          | none => .error .malformed
          | some board => .ok { frame, board }

end SaveState

namespace Cabinet

variable {σ S : Type} [Interpreter σ] [SoundChip S]

/-- The save state of a cabinet. -/
def saveState (s : Cabinet σ S) : Json :=
  .object
    [("system", .string SaveState.mark),
      ("version", .nat SaveState.version),
      ("revision", .string s.revision.name),
      ("frame", .nat s.frame.toNat),
      ("board", s.board.state.toJson)]

/-- Puts a cabinet into a saved state. A save state with anything wrong changes nothing. -/
def loadState (s : Cabinet σ S) (v : Json) : Except LoadProblem (Cabinet σ S) :=
  match SaveState.check s.revision.name v with
  | .error p => .error p
  | .ok saved =>
    match s.board.restore saved.board with
    | .error p => .error (.memory p)
    | .ok board =>
      .ok
        { s with
          machine := ({ s.machine with board := board } : Machine σ S).syncLines
          frame := saved.frame }

end Cabinet

end Arcade
