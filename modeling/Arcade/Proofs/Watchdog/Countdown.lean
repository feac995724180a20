import Mathlib.Data.List.Induction
import Arcade.Proofs.Watchdog

/-!
# `Arcade.Proofs.Watchdog.Countdown` — a watchdog that is not restarted when it expires

On a board everything is restarted when a watchdog expires. Left alone, a watchdog goes on: it begins a new count,
so that the events since it last expired tell how far it is, just as if it had been restarted. A frame expires it
if it is the last of as many counted frames as the period has, whatever came before; every period in which nothing
but frames happens has one such frame.

## Contents
- `Watchdog.record`, `expiries`, `sinceExpiry`: what a watchdog does over some events.
- `Follows.expired`, `follows_sinceExpiry`: the events since it last expired are the ones that matter.
- `Follows.count_ticks`: how often a watchdog expires over some frames in a row.
- `Watchdog.EveryFrame`: what holds before each frame of a history.
- `Watchdog.countdown_follows_history`.
-/

namespace Arcade

namespace Watchdog

/-- Whether a watchdog expires at an event. Only the end of a frame can expire it. -/
def expiresAt (w : Watchdog) (e : Event) : Bool := e == .frame && w.tick.1

/-- Some events, and for each whether the watchdog expires at it. -/
def record (w : Watchdog) : List Event → List (Event × Bool)
  | [] => []
  | e :: events => (e, w.expiresAt e) :: (w.react e).record events

/-- How often a watchdog expires over some events. -/
def expiries (w : Watchdog) (events : List Event) : Nat := (w.record events).countP Prod.snd

/-- The events after the last one at which a watchdog expires, or all of them if it does not. -/
def sinceExpiry (w : Watchdog) (events : List Event) : List Event :=
  ((w.record events).reverse.takeWhile fun happened => !happened.2).reverse.map Prod.fst

/-- Before the end of each frame in a history, the history up to there has some property. -/
def EveryFrame (p : List Event → Bool) (past : List Event) : Prop :=
  ∀ i, (hi : i < past.length) → past[i] = .frame → p (past.take i) = true

/-! ## One event more -/

theorem after_snoc (w : Watchdog) (past : List Event) (e : Event) :
    w.after (past ++ [e]) = (w.after past).react e := w.after_append past [e]

theorem record_snoc (w : Watchdog) (past : List Event) (e : Event) :
    w.record (past ++ [e]) = w.record past ++ [(e, (w.after past).expiresAt e)] := by
  induction past generalizing w with
  | nil => rfl
  | cons first past ih => exact congrArg (_ :: ·) (ih (w.react first))

theorem expiries_snoc (w : Watchdog) (past : List Event) (e : Event) :
    w.expiries (past ++ [e]) = w.expiries past + if (w.after past).expiresAt e then 1 else 0 := by
  unfold expiries
  rw [record_snoc, List.countP_append, List.countP_singleton]

theorem sinceExpiry_snoc (w : Watchdog) (past : List Event) (e : Event) :
    w.sinceExpiry (past ++ [e]) =
      if (w.after past).expiresAt e then [] else w.sinceExpiry past ++ [e] := by
  unfold sinceExpiry
  rw [record_snoc, List.reverse_append, List.reverse_singleton, List.singleton_append, List.takeWhile_cons]
  cases (w.after past).expiresAt e with
  | true => rfl
  | false => simp

theorem everyFrame_snoc {p : List Event → Bool} {past : List Event} {e : Event}
    (h : EveryFrame p (past ++ [e])) : EveryFrame p past ∧ (e = .frame → p past = true) := by
  constructor
  · intro i hi hframe
    have hlong : i < (past ++ [e]).length := by
      rw [List.length_append]
      omega
    have hp := h i hlong ((List.getElem_append_left hi).trans hframe)
    rwa [List.take_append_of_le_length (Nat.le_of_lt hi)] at hp
  · rintro rfl
    have hp := h past.length (by simp) (by simp)
    rwa [List.take_left] at hp

/-! ## Watchdogs that expire -/

variable {w : Watchdog} {period : UInt32} {past : List Event}

/-- A watchdog that expires is as it was before anything happened. -/
theorem Follows.expired (h : w.Follows period past) (hexpires : w.tick.1 = true) :
    w.tick.2.Follows period [] := by
  obtain ⟨hcovered, hdue⟩ := h.expires_iff.mp hexpires
  rw [h.tick_eq, hcovered, if_neg Bool.false_ne_true, if_pos hdue]
  exact
    { period_eq := h.period_eq
      elapsed_eq := rfl
      serviced_eq := h.serviced_eq.trans hcovered
      below := Nat.zero_lt_of_lt h.below }

/-- **What a watchdog does is told by the events since it last expired.** -/
theorem follows_sinceExpiry (h : w.Follows period []) (past : List Event) :
    (w.after past).Follows period (w.sinceExpiry past) := by
  induction past using List.reverseRecOn with
  | nil => exact h
  | append_singleton past e ih =>
    rw [after_snoc, sinceExpiry_snoc]
    cases e with
    | service => exact ih.service
    | restart => exact follows_restart ih.period_eq ih.period_ne_zero _
    | frame =>
      show (w.after past).tick.2.Follows period (if (w.after past).tick.1 then _ else _)
      cases hexpires : (w.after past).tick.1 with
      | true => exact ih.expired hexpires
      | false => exact ih.frame hexpires

/-- Whether the next frame is covered does not depend on what happened before the watchdog last expired. -/
theorem covered_sinceExpiry (w : Watchdog) (past : List Event) :
    covered (w.sinceExpiry past) = covered past := by
  induction past using List.reverseRecOn with
  | nil => rfl
  | append_singleton past e =>
    rw [sinceExpiry_snoc, covered_snoc]
    cases e with
    | service => exact covered_snoc _ _
    | restart => exact covered_snoc _ _
    | frame =>
      cases (w.after past).expiresAt .frame with
      | true => rfl
      | false => exact covered_snoc _ _

/-- After a service, and until a frame ends, no frame counts. -/
theorem countedFrames_of_service (w : Watchdog) {past : List Event}
    (h : (since (· == .frame) past).contains .service = true) : countedFrames (w.sinceExpiry past) = 0 := by
  induction past using List.reverseRecOn with
  | nil => rfl
  | append_singleton past e =>
    rw [since_snoc] at h
    rw [sinceExpiry_snoc]
    cases e with
    | service => exact countedFrames_snoc _ _
    | restart => exact countedFrames_snoc _ _
    | frame => cases h

/-- The counter of a watchdog says how often it has expired, as far as a number of 64 bits can. -/
theorem expirations_after (w : Watchdog) (past : List Event) :
    (w.after past).expirations = w.expirations + .ofNat (w.expiries past) := by
  induction past using List.reverseRecOn with
  | nil => exact (UInt64.add_zero _).symm
  | append_singleton past e ih =>
    rw [after_snoc, expiries_snoc, UInt64.ofNat_add, ← UInt64.add_assoc, ← ih]
    cases e with
    | service => exact (UInt64.add_zero _).symm
    | restart => exact (UInt64.add_zero _).symm
    | frame =>
      show (w.after past).tick.2.expirations = _ + .ofNat (if (w.after past).tick.1 then 1 else 0)
      unfold tick
      split
      · exact (UInt64.add_zero _).symm
      · split
        · rfl
        · exact (UInt64.add_zero _).symm

/-! ## Frames in a row -/

/-- **In a row of frames without service, every period expires a watchdog once**, the frames that were counted
before included. -/
theorem Follows.count_ticks (h : w.Follows period past) (huncovered : covered past = false) (n : Nat) :
    (w.ticks n).1.count true = (countedFrames past + n) / period.toNat := by
  have hpos : 0 < period.toNat := Nat.zero_lt_of_lt h.below
  induction n generalizing w past with
  | zero =>
    have hbelow := h.below
    rw [h.elapsed_eq] at hbelow
    exact (Nat.div_eq_of_lt hbelow).symm
  | succ n ih =>
    show (w.tick.1 :: (w.tick.2.ticks n).1).count true = _
    rw [List.count_cons]
    cases hexpires : w.tick.1 with
    | true =>
      have hdue := (h.expires_iff.mp hexpires).2
      have hlater := ih (h.expired hexpires) rfl
      have hzero : countedFrames [] = 0 := rfl
      have hall : countedFrames past + (n + 1) = n + period.toNat := by omega
      rw [hlater, hzero, Nat.zero_add, hall, Nat.add_div_right n hpos]
      rfl
    | false =>
      have hone : countedFrames (past ++ [.frame]) = countedFrames past + 1 := by
        rw [countedFrames_snoc, if_pos rfl, huncovered]
        rfl
      have hlater := ih (h.frame hexpires) (covered_snoc past .frame)
      rw [hlater, hone, Nat.add_right_comm, Nat.add_assoc]
      rfl

/-! ## The law -/

theorem toNat_period_ofPeriod (period : UInt32) : (ofPeriod period).period.toNat = max period.toNat 1 := by
  unfold ofPeriod
  split
  next h =>
    rw [h]
    rfl
  next h =>
    have hpos : 0 < period.toNat := UInt32.lt_iff_toNat_lt.mp (UInt32.pos_iff_ne_zero.mpr h)
    exact (Nat.max_eq_left hpos).symm

/-- A fresh watchdog has no history. -/
theorem follows_fresh (period : UInt32) : (ofPeriod period).Follows (ofPeriod period).period [] where
  period_eq := rfl
  elapsed_eq := rfl
  serviced_eq := rfl
  below := UInt32.lt_iff_toNat_lt.mp (wellFormed_ofPeriod period)

/-- A watchdog does not expire over a history in which no frame expires it. -/
theorem expiries_eq_zero {p : List Event → Bool}
    (hlasts : ∀ past, p past = true → (w.after past).tick.1 = false) (h : EveryFrame p past) :
    w.expiries past = 0 := by
  induction past using List.reverseRecOn with
  | nil => rfl
  | append_singleton past e ih =>
    obtain ⟨hbefore, hlast⟩ := everyFrame_snoc h
    rw [expiries_snoc, ih hbefore]
    cases e with
    | service => rfl
    | restart => rfl
    | frame =>
      show 0 + (if (w.after past).tick.1 then 1 else 0) = 0
      rw [hlasts past (hlast rfl)]
      rfl

/-- **The countdown of a watchdog.** Take a fresh watchdog of any period, where a period of zero frames counts as
one, and anything that happens to it. A frame is counted if it is not covered by a service after the last frame and
the last restart. The frame that ends then expires the watchdog if and only if it is counted and is, with those
counted since the watchdog was made, serviced, restarted or last expired, as many as the period; the watchdog
holds the number of the latter, which is below the period, and the number of times that it expired. So it never
expires if every frame is covered, nor, unless its period is a single frame, if it was serviced in every frame;
and as many frames in a row as the period has expire it exactly once, if the first is not covered. -/
theorem countdown_follows_history (period : UInt32) (past : List Event) :
    let fresh := ofPeriod period
    let frames := max period.toNat 1
    let counted := countedFrames (fresh.sinceExpiry past)
    ((fresh.after past).tick.1 = true ↔ covered past = false ∧ counted + 1 = frames) ∧
      (fresh.after past).elapsed.toNat = counted ∧ counted < frames ∧
      (fresh.after past).expirations = .ofNat (fresh.expiries past) ∧
      (EveryFrame covered past → fresh.expiries past = 0) ∧
      (1 < frames → EveryFrame (fun before => (since (· == .frame) before).contains .service) past →
        fresh.expiries past = 0) ∧
      (covered past = false → ((fresh.after past).ticks frames).1.count true = 1) := by
  intro fresh frames counted
  have hperiod : fresh.period.toNat = frames := toNat_period_ofPeriod period
  have hfollows (past : List Event) := follows_sinceExpiry (follows_fresh period) past
  have hexpires (past : List Event) : (fresh.after past).tick.1 = true ↔
      covered past = false ∧ countedFrames (fresh.sinceExpiry past) + 1 = frames := by
    rw [(hfollows past).expires_iff, covered_sinceExpiry, hperiod]
  have hbelow : counted < frames := by
    have hlt := (hfollows past).below
    rw [(hfollows past).elapsed_eq] at hlt
    exact Nat.lt_of_lt_of_eq hlt hperiod
  refine ⟨hexpires past, (hfollows past).elapsed_eq, hbelow, ?_, ?_, ?_, ?_⟩
  · exact (expirations_after fresh past).trans (UInt64.zero_add _)
  · refine expiries_eq_zero fun before hcovered => Bool.eq_false_iff.mpr fun htick => ?_
    exact Bool.false_ne_true (((hexpires before).mp htick).1.symm.trans hcovered)
  · intro hlong
    refine expiries_eq_zero fun before hserviced => Bool.eq_false_iff.mpr fun htick => ?_
    have hdue := ((hexpires before).mp htick).2
    rw [countedFrames_of_service fresh hserviced] at hdue
    omega
  · intro huncovered
    have hcount := (hfollows past).count_ticks ((covered_sinceExpiry fresh past).trans huncovered) frames
    rw [hcount, hperiod, Nat.add_div_right counted (Nat.zero_lt_of_lt hbelow), Nat.div_eq_of_lt hbelow]

/-- A watchdog of two frames does not expire where a service covers every frame, nor where a restart undoes each of
the services; and the next two frames expire it once. -/
theorem countdown_follows_history_serviced :
    let covers : List Event := [.restart, .service, .frame, .service, .frame]
    let undone : List Event := [.service, .restart, .frame, .service, .restart, .frame]
    EveryFrame covered covers ∧ (ofPeriod 2).expiries covers = 0 ∧
      EveryFrame (fun before => (since (· == .frame) before).contains .service) undone ∧
      (ofPeriod 2).expiries undone = 0 ∧ covered undone = false ∧
      (((ofPeriod 2).after undone).ticks 2).1.count true = 1 := by
  intro covers undone
  have hcovers : EveryFrame covered covers := by
    unfold EveryFrame
    decide
  have hundone : EveryFrame (fun before => (since (· == .frame) before).contains .service) undone := by
    unfold EveryFrame
    decide
  obtain ⟨-, -, -, -, hnever, -, -⟩ := countdown_follows_history 2 covers
  obtain ⟨-, -, -, -, -, hlong, hrow⟩ := countdown_follows_history 2 undone
  exact ⟨hcovers, hnever hcovers, hundone, hlong (by decide) hundone, rfl, hrow rfl⟩

end Watchdog

end Arcade
