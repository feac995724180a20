import Arcade.Proofs.Board.Alike

/-!
# `Arcade.Proofs.Board.Interleaving` — operations that do not depend on each other

Two operations are independent when neither changes what the other gives back, and it does not matter which
of them is done first. If everything in one list of operations is independent of everything in another, then
it does not matter how the two are mixed, as long as each keeps its own order: what each operation gives back
is the same, and so is the board in the end.

The proof takes up the lists from the front. The first operation of the second list is the only one that is
not where it should be, and is put off until the whole of the first list has been done (`perform_past`).

## Contents
- `Interleaves`, with `Interleaves.append`, `Interleaves.filter_left`, `Interleaves.filter_right`.
- `Operation.Independent`.
- `perform_past`: an operation put off past a list.
- `history_interleaves`: any interleaving does what one list after the other does.
-/

namespace Arcade

/-! ## Interleavings -/

/-- The third list consists of the first two, each in its own order. -/
inductive Interleaves {α : Type} : List α → List α → List α → Prop
  | nil : Interleaves [] [] []
  | left {x y all : List α} (a : α) (h : Interleaves x y all) : Interleaves (a :: x) y (a :: all)
  | right {x y all : List α} (a : α) (h : Interleaves x y all) : Interleaves x (a :: y) (a :: all)

namespace Interleaves

variable {α : Type} {x y all : List α} {f : α → Bool}

/-- One list after the other. -/
theorem append (x y : List α) : Interleaves x y (x ++ y) := by
  induction x with
  | cons a x ih => exact .left a ih
  | nil =>
    induction y with
    | nil => exact .nil
    | cons a y ih => exact .right a ih

/-- If a test tells the lists apart, the first is what passes it. -/
theorem filter_left (h : Interleaves x y all) (hx : ∀ a ∈ x, f a = true) (hy : ∀ a ∈ y, f a = false) :
    all.filter f = x := by
  induction h with
  | nil => rfl
  | left a _ ih =>
    obtain ⟨ha, hx⟩ := List.forall_mem_cons.mp hx
    rw [List.filter_cons_of_pos ha, ih hx hy]
  | right a _ ih =>
    obtain ⟨ha, hy⟩ := List.forall_mem_cons.mp hy
    have hdrop : ¬ f a = true := by
      rw [ha]
      exact Bool.false_ne_true
    rw [List.filter_cons_of_neg hdrop, ih hx hy]

theorem symm (h : Interleaves x y all) : Interleaves y x all := by
  induction h with
  | nil => exact .nil
  | left a _ ih => exact .right a ih
  | right a _ ih => exact .left a ih

/-- If a test tells the lists apart, the second is what passes it. -/
theorem filter_right (h : Interleaves x y all) (hx : ∀ a ∈ x, f a = false) (hy : ∀ a ∈ y, f a = true) :
    all.filter f = y :=
  h.symm.filter_left hy hx

end Interleaves

/-! ## Independent operations -/

/-- Neither operation changes what the other gives back, and either may be done first. -/
structure Operation.Independent (op other : Operation) : Prop where
  first : ∀ {S : Type} [SoundChip S] (b : Board S), ((b.perform other).2.perform op).1 = (b.perform op).1
  second : ∀ {S : Type} [SoundChip S] (b : Board S),
    ((b.perform op).2.perform other).1 = (b.perform other).1
  commute : ∀ {S : Type} [SoundChip S] (b : Board S),
    ((b.perform other).2.perform op).2.Alike ((b.perform op).2.perform other).2

namespace Board

variable {S : Type} [SoundChip S]

/-- The operations of a history are those that were done. -/
theorem fst_mem_of_mem_history {b : Board S} {ops : List Operation} {e : Operation × Answer}
    (h : e ∈ b.history ops) : e.1 ∈ ops :=
  (List.of_mem_zip h).1

/-- **An operation can be put off** past operations that are independent of it. -/
theorem perform_past {x : List Operation} {other : Operation} (h : ∀ op ∈ x, op.Independent other)
    (b : Board S) :
    (b.perform other).2.history x = b.history x ∧
      ((b.after x).perform other).1 = (b.perform other).1 ∧
      ((b.perform other).2.after x).Alike ((b.after x).perform other).2 := by
  induction x generalizing b with
  | nil => exact ⟨rfl, rfl, .refl _⟩
  | cons op x ih =>
    obtain ⟨hop, hx⟩ := List.forall_mem_cons.mp h
    obtain ⟨hhistory, hanswer, halike⟩ := ih hx (b.perform op).2
    -- first past the head of the list, then past the rest
    obtain ⟨hhead, hrest⟩ := (hop.commute b).after x
    refine ⟨?_, hanswer.trans (hop.second b), hrest.trans halike⟩
    rw [history_cons, history_cons, hop.first b, hhead, hhistory]

/-- **It does not matter how independent operations are interleaved.** What they give back is what they give
back if one list is done after the other, and so is the board in the end. -/
theorem history_interleaves {x y run : List Operation} (hrun : Interleaves x y run)
    (h : ∀ op ∈ x, ∀ other ∈ y, op.Independent other) (b : Board S) :
    Interleaves (b.history x) ((b.after x).history y) (b.history run) ∧
      (b.after run).Alike ((b.after x).after y) := by
  induction hrun generalizing b with
  | nil => exact ⟨.nil, .refl b⟩
  | left op _ ih =>
    obtain ⟨-, hx⟩ := List.forall_mem_cons.mp h
    obtain ⟨hhistory, hafter⟩ := ih hx (b.perform op).2
    exact ⟨.left _ hhistory, hafter⟩
  | @right x y run other _ ih =>
    have hother : ∀ op ∈ x, op.Independent other := fun op hop => h op hop other List.mem_cons_self
    have hrest : ∀ op ∈ x, ∀ later ∈ y, op.Independent later :=
      fun op hop later hlater => h op hop later (List.mem_cons_of_mem other hlater)
    obtain ⟨hinterleaves, hafter⟩ := ih hrest (b.perform other).2
    obtain ⟨hhistory, hanswer, halike⟩ := perform_past hother b
    obtain ⟨hlater, hend⟩ := halike.after y
    rw [hhistory, hlater] at hinterleaves
    refine ⟨?_, hafter.trans hend⟩
    rw [history_cons, history_cons, hanswer]
    exact .right _ hinterleaves

end Board

end Arcade
