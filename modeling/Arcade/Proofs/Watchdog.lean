import Arcade.Watchdog

/-!
# `Arcade.Proofs.Watchdog` — what the counter of a watchdog counts

Three things happen to a watchdog: it is serviced, a frame ends, and it is restarted. A frame is *counted*
unless it was serviced since the frame before it ended, and since the last restart. The counter of a
watchdog is the number of frames that were counted since the last service or restart, and the frame that
makes this number the period expires it.

This holds of a watchdog that is restarted whenever it expires, as it is on a board.

## Contents
- `Watchdog.Event`, `covered`, `countedFrames`: the law in terms of the history alone.
- `Watchdog.after`: a watchdog after some events.
- `Watchdog.Follows`: a watchdog as its history says, kept by each kind of event.
- `Follows.expires_iff`: when the end of a frame expires a watchdog.
- `Watchdog.unserviced`, `tick_unserviced`: a watchdog that nobody services.
-/

namespace Arcade

namespace Watchdog

/-- Something that happens to a watchdog. -/
inductive Event
  | service
  /-- A frame ends while the processor of the watchdog is not held. -/
  | frame
  | restart
  deriving DecidableEq, Repr

/-! ## Histories -/

/-- The part of a history after the last event of some kind. -/
def since (stop : Event → Bool) (past : List Event) : List Event :=
  (past.reverse.takeWhile fun e => !stop e).reverse

/-- Whether there was a service after the last end of a frame and after the last restart. -/
def covered (past : List Event) : Bool :=
  (since (fun e => e == .frame || e == .restart) past).contains .service

/-- Whether the event at some place is a frame that is counted, after the last service and after the last
restart. A frame is counted unless the history before it covers it. -/
def countsAt (past : List Event) (i : Nat) : Bool :=
  past[i]? == some .frame && !covered (past.take i) &&
    (past.drop (i + 1)).all fun e => e != .service && e != .restart

/-- How many frames have been counted after the last service and after the last restart. -/
def countedFrames (past : List Event) : Nat := (List.range past.length).countP (countsAt past)

theorem since_snoc (stop : Event → Bool) (past : List Event) (e : Event) :
    since stop (past ++ [e]) = if stop e then [] else since stop past ++ [e] := by
  unfold since
  rw [List.reverse_append, List.reverse_singleton, List.singleton_append, List.takeWhile_cons]
  cases stop e with
  | true => rfl
  | false => exact List.reverse_cons

/-- A frame is covered if the last thing before it was a service. -/
theorem covered_snoc (past : List Event) (e : Event) : covered (past ++ [e]) = (e == .service) := by
  unfold covered
  rw [since_snoc]
  cases e with
  | service => simp
  | frame | restart => rfl

/-- An earlier frame goes on to count if this is a frame too. -/
theorem countsAt_snoc_of_lt {past : List Event} {i : Nat} (h : i < past.length) (e : Event) :
    countsAt (past ++ [e]) i = (countsAt past i && e == .frame) := by
  have hkind : (e != .service && e != .restart) = (e == .frame) := by cases e <;> rfl
  unfold countsAt
  rw [List.getElem?_append_left h, List.take_append_of_le_length (Nat.le_of_lt h),
    List.drop_append_of_le_length h, List.all_append, List.all_cons, List.all_nil, hkind,
    Bool.and_true, ← Bool.and_assoc]

theorem countsAt_snoc_length (past : List Event) (e : Event) :
    countsAt (past ++ [e]) past.length = (e == .frame && !covered past) := by
  simp [countsAt]

/-- The end of a frame adds one to the count unless the frame is covered; anything else begins it anew. -/
theorem countedFrames_snoc (past : List Event) (e : Event) :
    countedFrames (past ++ [e]) =
      if e = .frame then countedFrames past + (if covered past then 0 else 1) else 0 := by
  have hbefore : ∀ i ∈ List.range past.length,
      (countsAt (past ++ [e]) i = true ↔ (countsAt past i && e == .frame) = true) := fun i hi => by
    rw [countsAt_snoc_of_lt (List.mem_range.mp hi)]
  unfold countedFrames
  rw [List.length_append, List.length_singleton, List.range_succ, List.countP_append,
    List.countP_singleton, countsAt_snoc_length, List.countP_congr hbefore]
  cases e with
  | frame => cases covered past <;> simp
  | service | restart => simp

/-! ## Watchdogs and their histories -/

/-- A watchdog after an event. -/
def react (w : Watchdog) : Event → Watchdog
  | .service => w.service
  | .frame => w.tick.2
  | .restart => w.restart

/-- A watchdog after some events. -/
def after (w : Watchdog) (events : List Event) : Watchdog := events.foldl react w

/-- A watchdog of a period is as its history says. -/
structure Follows (w : Watchdog) (period : UInt32) (past : List Event) : Prop where
  period_eq : w.period = period
  elapsed_eq : w.elapsed.toNat = countedFrames past
  serviced_eq : w.serviced = covered past
  below : w.elapsed.toNat < period.toNat

variable {w : Watchdog} {period : UInt32} {past : List Event}

theorem follows_ofPeriod (h : period ≠ 0) : (ofPeriod period).Follows period [] where
  period_eq := if_neg h
  elapsed_eq := rfl
  serviced_eq := rfl
  below := UInt32.lt_iff_toNat_lt.mp (UInt32.pos_iff_ne_zero.mpr h)

/-- Counting one more frame does not go beyond the largest number. -/
theorem Follows.toNat_elapsed_add_one (h : w.Follows period past) :
    (w.elapsed + 1).toNat = w.elapsed.toNat + 1 := by
  have hlt := h.below
  have hmax := period.toNat_lt
  rw [UInt32.toNat_add]
  show (w.elapsed.toNat + 1) % 2 ^ 32 = _
  omega

theorem Follows.service (h : w.Follows period past) : w.service.Follows period (past ++ [.service]) where
  period_eq := h.period_eq
  elapsed_eq := (countedFrames_snoc past .service).symm
  serviced_eq := (covered_snoc past .service).symm
  below := Nat.zero_lt_of_lt h.below

/-- A restart makes a watchdog follow its history whatever it did before. -/
theorem follows_restart (hperiod : w.period = period) (hpos : period ≠ 0) (past : List Event) :
    w.restart.Follows period (past ++ [.restart]) where
  period_eq := hperiod
  elapsed_eq := (countedFrames_snoc past .restart).symm
  serviced_eq := (covered_snoc past .restart).symm
  below := UInt32.lt_iff_toNat_lt.mp (UInt32.pos_iff_ne_zero.mpr hpos)

theorem Follows.period_ne_zero (h : w.Follows period past) : period ≠ 0 := by
  rintro rfl
  exact absurd h.below (Nat.not_lt_zero _)

/-- **The end of a frame in terms of the history.** -/
theorem Follows.tick_eq (h : w.Follows period past) :
    w.tick =
      if covered past then (false, { w with serviced := false })
      else if countedFrames past + 1 = period.toNat then
        (true, { w with elapsed := 0, expirations := w.expirations + 1 })
      else (false, { w with elapsed := w.elapsed + 1 }) := by
  have hnext := h.toNat_elapsed_add_one
  have hlt := h.below
  have hreached : w.period ≤ w.elapsed + 1 ↔ countedFrames past + 1 = period.toNat := by
    rw [UInt32.le_iff_toNat_le, h.period_eq, hnext, ← h.elapsed_eq]
    omega
  unfold tick
  rw [h.serviced_eq]
  simp only [hreached]

/-- **A frame expires a watchdog if it is counted and completes the period.** -/
theorem Follows.expires_iff (h : w.Follows period past) :
    w.tick.1 = true ↔ covered past = false ∧ countedFrames past + 1 = period.toNat := by
  rw [h.tick_eq]
  cases covered past with
  | true => simp
  | false =>
    by_cases hdue : countedFrames past + 1 = period.toNat
    · simp [hdue]
    · simp [hdue]

/-- A frame that does not expire a watchdog. -/
theorem Follows.frame (h : w.Follows period past) (hlasts : w.tick.1 = false) :
    w.tick.2.Follows period (past ++ [.frame]) := by
  have hcounted := countedFrames_snoc past .frame
  have hserviced := covered_snoc past .frame
  have hdue : ¬ (covered past = false ∧ countedFrames past + 1 = period.toNat) := fun hdue =>
    Bool.false_ne_true (hlasts.symm.trans (h.expires_iff.mpr hdue))
  rw [if_pos rfl] at hcounted
  rw [h.tick_eq]
  cases hcovered : covered past with
  | true =>
    rw [hcovered] at hcounted
    exact { h with elapsed_eq := h.elapsed_eq.trans hcounted.symm, serviced_eq := hserviced.symm }
  | false =>
    rw [hcovered] at hcounted
    have hnot : countedFrames past + 1 ≠ period.toNat := fun hperiod => hdue ⟨hcovered, hperiod⟩
    have hnext := h.toNat_elapsed_add_one
    have helapsed := h.elapsed_eq
    have hlt := h.below
    rw [if_neg Bool.false_ne_true, if_neg hnot]
    refine ⟨h.period_eq, ?_, ?_, ?_⟩
    · rw [hcounted, ← helapsed]
      exact hnext
    · exact h.serviced_eq.trans (hcovered.trans hserviced.symm)
    · show (w.elapsed + 1).toNat < period.toNat
      omega

/-! ## Several events -/

theorem after_append (w : Watchdog) (first second : List Event) :
    w.after (first ++ second) = (w.after first).after second := List.foldl_append

/-- Nothing that happens to a watchdog changes its period. -/
theorem period_after (w : Watchdog) (events : List Event) : (w.after events).period = w.period := by
  induction events generalizing w with
  | nil => rfl
  | cons e events ih =>
    refine (ih (w.react e)).trans ?_
    cases e with
    | service | restart => rfl
    | frame =>
      show w.tick.2.period = w.period
      unfold tick
      (repeat' split) <;> rfl

/-- Events that end in a restart leave a watchdog as its history says, even if it expired on the way. -/
theorem Follows.after_restart (h : w.Follows period past) (events : List Event) :
    (w.after (events ++ [.restart])).Follows period (past ++ (events ++ [.restart])) := by
  rw [after_append, ← List.append_assoc]
  exact follows_restart ((w.period_after events).trans h.period_eq) h.period_ne_zero _

/-! ## Without service -/

/-- A watchdog of a period after some frames in which nobody serviced it. -/
def unserviced (period : UInt32) (frames : Nat) : Watchdog :=
  { period := period
    elapsed := .ofNat (frames % period.toNat)
    serviced := false
    expirations := .ofNat (frames / period.toNat) }

theorem unserviced_zero (h : period ≠ 0) : unserviced period 0 = ofPeriod period := by
  unfold unserviced ofPeriod
  rw [if_neg h, Nat.zero_mod, Nat.zero_div]
  rfl

theorem toNat_elapsed_unserviced (h : period ≠ 0) (frames : Nat) :
    (unserviced period frames).elapsed.toNat = frames % period.toNat := by
  have hpos : 0 < period.toNat := UInt32.lt_iff_toNat_lt.mp (UInt32.pos_iff_ne_zero.mpr h)
  have hlt := Nat.mod_lt frames hpos
  exact UInt32.toNat_ofNat_of_lt' (Nat.lt_trans hlt period.toNat_lt)

/-- After a whole number of periods there is nothing to restart. -/
theorem restart_unserviced {frames : Nat} (h : period.toNat ∣ frames) :
    (unserviced period frames).restart = unserviced period frames := by
  unfold unserviced restart
  rw [Nat.mod_eq_zero_of_dvd h]
  rfl

/-- **A watchdog that nobody services expires after every period.** -/
theorem tick_unserviced (h : period ≠ 0) (frames : Nat) :
    (unserviced period frames).tick =
      (decide (period.toNat ∣ frames + 1), unserviced period (frames + 1)) := by
  have hpos : 0 < period.toNat := UInt32.lt_iff_toNat_lt.mp (UInt32.pos_iff_ne_zero.mpr h)
  have hlt := Nat.mod_lt frames hpos
  have hmax := period.toNat_lt
  have hdivided := Nat.div_add_mod frames period.toNat
  have hserviced : (unserviced period frames).serviced = false := rfl
  have hreached : (unserviced period frames).period ≤ (unserviced period frames).elapsed + 1 ↔
      frames % period.toNat + 1 = period.toNat := by
    rw [UInt32.le_iff_toNat_le, UInt32.toNat_add, toNat_elapsed_unserviced h]
    show period.toNat ≤ (frames % period.toNat + 1) % 2 ^ 32 ↔ _
    omega
  -- one frame more either completes the period or goes on within it
  have hnext (d m : Nat) (h : m + period.toNat * d = frames + 1 ∧ m < period.toNat) :
      (frames + 1) / period.toNat = d ∧ (frames + 1) % period.toNat = m :=
    (Nat.div_mod_unique hpos).mpr h
  unfold tick
  rw [hserviced, if_neg Bool.false_ne_true]
  by_cases hdue : frames % period.toNat + 1 = period.toNat
  · obtain ⟨hdiv, hmod⟩ := hnext (frames / period.toNat + 1) 0 ⟨by rw [Nat.mul_add]; omega, hpos⟩
    rw [if_pos (hreached.mpr hdue), decide_eq_true (Nat.dvd_of_mod_eq_zero hmod)]
    unfold unserviced
    rw [hdiv, hmod, UInt64.ofNat_add]
    rfl
  · obtain ⟨hdiv, hmod⟩ := hnext (frames / period.toNat) (frames % period.toNat + 1) ⟨by omega, by omega⟩
    have hnot : ¬ period.toNat ∣ frames + 1 := fun hdvd =>
      Nat.succ_ne_zero _ (hmod.symm.trans (Nat.mod_eq_zero_of_dvd hdvd))
    rw [if_neg (mt hreached.mp hdue), decide_eq_false hnot]
    unfold unserviced
    rw [hdiv, hmod, UInt32.ofNat_add]
    rfl

end Watchdog

end Arcade
