import Mathlib.Algebra.GroupWithZero.Nat
import Mathlib.Data.List.Induction
import Arcade.Log.Journal

/-!
# `Arcade.Proofs.Log.RateLimit` — no message is lost from the count

Settings of a journal are changed, messages are offered to it, and time passes, in any order. For each category,
the messages that are wanted are decided on one after the other: a message is written if fewer than the limit, as
it is then, have been written within the last second, and otherwise dropped. Every dropped message is in the count
of one report or still to be reported. Nothing that is done with the other categories matters, nor does a message
that is not wanted.

What is counted does not depend on the clock. What passes does; while the clock stands still, nothing that was
written is ever forgotten, and there is no second report before another message is written.

## Contents
- `Window.Offer`, `Window.decisions`, `Window.unreported`: one category under any limits, at any times.
- `Window.offer_cases`: everything that an offer can do.
- `Window.Follows`, `Window.follows_after`, `Window.accounted_eq`: what is counted.
- `Window.passed`, `Window.passes_iff_recent`: what passes while the clock goes on.
- `Window.passes_iff`, `Window.reports_only`, `Window.count_passes`: what passes at one instant.
- `Journal.Call`, `Journal.offered`, `Journal.decisions`: a journal over any calls.
- `Journal.record_of_wants`, `Journal.decisions_eq`, `Journal.decisions_filter`.
- `Journal.no_message_lost`.
-/

namespace Arcade

/-! ## One category -/

namespace Window

/-- A message that is offered: when, and under which limit. -/
structure Offer where
  now : Instant
  limit : UInt64
  deriving DecidableEq, Repr

/-- The decisions on messages. -/
def decisions (w : Window) : List Offer → List Decision
  | [] => []
  | o :: offers => (w.offer o.now o.limit).1 :: (w.offer o.now o.limit).2.decisions offers

/-- The window after messages. -/
def after (w : Window) (offers : List Offer) : Window := offers.foldl (fun w o => (w.offer o.now o.limit).2) w

/-- How many messages were dropped since the last report. One that is dropped with a report is in the report. -/
def unreported (ds : List Decision) : Nat :=
  (ds.reverse.takeWhile fun d => d.report.isNone).countP fun d => !d.passes

theorem after_snoc (w : Window) (offers : List Offer) (o : Offer) :
    w.after (offers ++ [o]) = ((w.after offers).offer o.now o.limit).2 := by
  unfold after
  rw [List.foldl_append]
  rfl

theorem decisions_snoc (w : Window) (offers : List Offer) (o : Offer) :
    w.decisions (offers ++ [o]) = w.decisions offers ++ [((w.after offers).offer o.now o.limit).1] := by
  induction offers generalizing w with
  | nil => rfl
  | cons first offers ih => exact congrArg (_ :: ·) (ih (w.offer first.now first.limit).2)

theorem length_decisions (w : Window) (offers : List Offer) : (w.decisions offers).length = offers.length := by
  induction offers generalizing w with
  | nil => rfl
  | cons o offers ih => exact congrArg (· + 1) (ih (w.offer o.now o.limit).2)

theorem unreported_snoc (ds : List Decision) (d : Decision) :
    unreported (ds ++ [d]) = if d.report.isNone then unreported ds + (if d.passes then 0 else 1) else 0 := by
  unfold unreported
  rw [List.reverse_append, List.reverse_singleton, List.singleton_append, List.takeWhile_cons]
  cases d.report.isNone with
  | false => rfl
  | true =>
    rw [if_pos rfl, if_pos rfl, List.countP_cons]
    cases d.passes <;> rfl

theorem countP_passes_snoc (ds : List Decision) (d : Decision) :
    (ds ++ [d]).countP Decision.passes = ds.countP Decision.passes + if d.passes then 1 else 0 := by
  rw [List.countP_append, List.countP_singleton]

theorem all_passes_snoc (ds : List Decision) (d : Decision) :
    (ds ++ [d]).all Decision.passes = (ds.all Decision.passes && d.passes) := by
  rw [List.all_append, List.all_cons, List.all_nil, Bool.and_true]

/-- Where nothing was dropped there is nothing to report. -/
theorem unreported_of_all_pass {ds : List Decision} (h : ds.all Decision.passes = true) : unreported ds = 0 := by
  refine List.countP_eq_zero.mpr fun d hd => ?_
  have hmem : d ∈ ds := List.mem_reverse.mp (List.takeWhile_subset _ hd)
  rw [List.all_eq_true.mp h d hmem]
  exact Bool.false_ne_true

/-- **Everything that an offer can do.** A message passes, with a report if one is pending, or is dropped, with a
report if one is due. -/
theorem offer_cases (now : Instant) (limit : UInt64) (w : Window) :
    ((w.forget now).stamps.length < limit.toNat ∧
      (0 < w.dropped ∧ w.offer now limit =
          (⟨true, some w.dropped⟩, ⟨(w.forget now).stamps ++ [now], 0, some now⟩) ∨
        w.dropped = 0 ∧ w.offer now limit =
          (⟨true, none⟩, ⟨(w.forget now).stamps ++ [now], w.dropped, w.lastReport⟩))) ∨
    (¬(w.forget now).stamps.length < limit.toNat ∧
      (w.isReportDue now = true ∧ w.offer now limit =
          (⟨false, some (w.dropped + 1)⟩, ⟨(w.forget now).stamps, 0, some now⟩) ∨
        w.isReportDue now = false ∧ w.offer now limit =
          (⟨false, none⟩, ⟨(w.forget now).stamps, w.dropped + 1, w.lastReport⟩))) := by
  by_cases hroom : (w.forget now).stamps.length < limit.toNat
  · refine .inl ⟨hroom, ?_⟩
    unfold offer
    by_cases hpending : 0 < w.dropped
    · exact .inl ⟨hpending, (if_pos hroom).trans (if_pos hpending)⟩
    · refine .inr ⟨?_, (if_pos hroom).trans (if_neg hpending)⟩
      exact not_not.mp (mt UInt64.pos_iff_ne_zero.mpr hpending)
  · refine .inr ⟨hroom, ?_⟩
    unfold offer
    cases hdue : w.isReportDue now with
    | true => exact .inl ⟨rfl, (if_neg hroom).trans (if_pos hdue)⟩
    | false => exact .inr ⟨rfl, (if_neg hroom).trans (if_neg (Bool.eq_false_iff.mp hdue))⟩

/-! ### What is counted -/

/-- What a window counts is as the decisions so far say. -/
structure Follows (w : Window) (ds : List Decision) : Prop where
  dropped_eq : w.dropped = .ofNat (unreported ds)
  /-- The first message that is dropped is reported at once. -/
  lastReport_isNone : w.lastReport.isNone = ds.all Decision.passes

theorem follows_empty : Follows empty [] := ⟨rfl, rfl⟩

variable {w : Window} {ds : List Decision} {offers : List Offer}

/-- A report has all that were dropped since the last one, the message itself too if it is dropped. -/
theorem Follows.report_eq (h : w.Follows ds) (now : Instant) (limit : UInt64) :
    (w.offer now limit).1.report = none ∨
      (w.offer now limit).1.report =
        some (.ofNat (unreported ds + if (w.offer now limit).1.passes then 0 else 1)) := by
  obtain ⟨-, ⟨-, ho⟩ | ⟨-, ho⟩⟩ | ⟨-, ⟨-, ho⟩ | ⟨-, ho⟩⟩ := w.offer_cases now limit
  · rw [ho]
    exact .inr (congrArg some h.dropped_eq)
  · rw [ho]
    exact .inl rfl
  · rw [ho]
    refine .inr (congrArg some ?_)
    rw [h.dropped_eq]
    exact (UInt64.ofNat_add _ 1).symm
  · rw [ho]
    exact .inl rfl

/-- **A window follows the decisions** through one message more. -/
theorem Follows.offer (h : w.Follows ds) (now : Instant) (limit : UInt64) :
    (w.offer now limit).2.Follows (ds ++ [(w.offer now limit).1]) := by
  have hdropped := h.dropped_eq
  have hquiet := h.lastReport_isNone
  obtain ⟨-, ⟨hpending, ho⟩ | ⟨-, ho⟩⟩ | ⟨-, ⟨-, ho⟩ | ⟨hdue, ho⟩⟩ := w.offer_cases now limit
  · -- something is to be reported, so something has been dropped
    have hsome : ds.all Decision.passes = false := by
      refine Bool.eq_false_iff.mpr fun hnone => ?_
      rw [hdropped, unreported_of_all_pass hnone] at hpending
      exact absurd hpending (by decide)
    rw [ho]
    refine ⟨?_, ?_⟩
    · rw [unreported_snoc]
      rfl
    · rw [all_passes_snoc, hsome]
      rfl
  · rw [ho]
    refine ⟨?_, ?_⟩
    · rw [unreported_snoc]
      exact hdropped
    · rw [all_passes_snoc, Bool.and_true]
      exact hquiet
  · rw [ho]
    refine ⟨?_, ?_⟩
    · rw [unreported_snoc]
      rfl
    · rw [all_passes_snoc, Bool.and_false]
      rfl
  · -- no report is due, so there was one
    have hreported : w.lastReport.isNone = false := by
      unfold isReportDue at hdue
      cases hlast : w.lastReport with
      | none => rw [hlast] at hdue; cases hdue
      | some last => rfl
    rw [ho]
    refine ⟨?_, ?_⟩
    · rw [unreported_snoc]
      show w.dropped + 1 = .ofNat (unreported ds + 1)
      rw [hdropped, UInt64.ofNat_add]
      rfl
    · rw [all_passes_snoc, Bool.and_false]
      exact hreported

/-- **A window follows its decisions**, whenever the messages come. -/
theorem follows_after (offers : List Offer) : (empty.after offers).Follows (empty.decisions offers) := by
  induction offers using List.reverseRecOn with
  | nil => exact follows_empty
  | append_singleton offers o ih =>
    rw [after_snoc, decisions_snoc]
    exact ih.offer o.now o.limit

/-- How many messages were dropped by what the reports say, taken together. -/
def reported (ds : List Decision) : Nat := (ds.map fun d => (d.report.getD 0).toNat).sum

theorem reported_snoc (ds : List Decision) (d : Decision) :
    reported (ds ++ [d]) = reported ds + (d.report.getD 0).toNat := by
  unfold reported
  rw [List.map_append, List.sum_append, List.map_singleton, List.sum_singleton]

/-- How many messages are accounted for: written, in a report or still to be reported. -/
def accounted (ds : List Decision) : Nat := ds.countP Decision.passes + reported ds + unreported ds

/-- **One message more is accounted for**, except that a report leaves out what its number cannot hold. -/
theorem Follows.accounted_offer (h : w.Follows ds) (now : Instant) (limit : UInt64) :
    accounted (ds ++ [(w.offer now limit).1]) % 2 ^ 64 = (accounted ds + 1) % 2 ^ 64 ∧
      (accounted ds + 1 < 2 ^ 64 → accounted (ds ++ [(w.offer now limit).1]) = accounted ds + 1) := by
  have hreport := h.report_eq now limit
  unfold accounted
  rw [countP_passes_snoc, reported_snoc, unreported_snoc]
  generalize (w.offer now limit).1 = d at hreport ⊢
  -- what was unreported stays so and may grow by one, or it goes into the report
  obtain hnone | hsome := hreport
  · rw [hnone]
    simp only [Option.getD_none, Option.isNone_none, if_true]
    have hzero : (0 : UInt64).toNat = 0 := rfl
    rw [hzero]
    cases d.passes <;> simp only [Bool.false_eq_true, if_false, if_true] <;> omega
  · rw [hsome]
    simp only [Option.getD_some, Option.isNone_some, Bool.false_eq_true, if_false, UInt64.toNat_ofNat']
    cases d.passes <;> simp only [Bool.false_eq_true, if_false, if_true] <;> omega

/-- Every message is accounted for, as far as numbers of 64 bits can tell. -/
theorem accounted_mod (offers : List Offer) : accounted (empty.decisions offers) % 2 ^ 64 = offers.length % 2 ^ 64 := by
  induction offers using List.reverseRecOn with
  | nil => rfl
  | append_singleton offers o ih =>
    have hone := ((follows_after offers).accounted_offer o.now o.limit).1
    rw [decisions_snoc, hone, List.length_append, List.length_singleton, Nat.add_mod, ih, ← Nat.add_mod]

/-- **Every message is accounted for**, as long as such a number can count the messages. -/
theorem accounted_eq {offers : List Offer} (h : offers.length < 2 ^ 64) :
    accounted (empty.decisions offers) = offers.length := by
  induction offers using List.reverseRecOn with
  | nil => rfl
  | append_singleton offers o ih =>
    rw [List.length_append, List.length_singleton] at h
    have hbefore := ih (Nat.lt_of_succ_lt h)
    rw [decisions_snoc, ((follows_after offers).accounted_offer o.now o.limit).2 (hbefore ▸ h), hbefore,
      List.length_append, List.length_singleton]

/-! ### What passes while the clock goes on -/

/-- When messages pass. -/
def passed (w : Window) : List Offer → List Instant
  | [] => []
  | o :: offers =>
    (if (w.offer o.now o.limit).1.passes then [o.now] else []) ++ (w.offer o.now o.limit).2.passed offers

theorem passed_snoc (w : Window) (offers : List Offer) (o : Offer) :
    w.passed (offers ++ [o]) =
      w.passed offers ++ if ((w.after offers).offer o.now o.limit).1.passes then [o.now] else [] := by
  induction offers generalizing w with
  | nil =>
    show _ ++ [] = _
    rw [List.append_nil]
    rfl
  | cons first offers ih =>
    rw [List.cons_append, passed, passed, ih, List.append_assoc]
    rfl

theorem length_passed (w : Window) (offers : List Offer) :
    (w.passed offers).length = (w.decisions offers).countP Decision.passes := by
  induction offers generalizing w with
  | nil => rfl
  | cons o offers ih =>
    rw [passed, decisions, List.length_append, ih, List.countP_cons, Nat.add_comm]
    cases (w.offer o.now o.limit).1.passes <;> rfl

/-- Messages pass when they are offered, and in that order. -/
theorem passed_sublist (w : Window) (offers : List Offer) : (w.passed offers).Sublist (offers.map Offer.now) := by
  induction offers generalizing w with
  | nil => exact .refl _
  | cons o offers ih =>
    rw [passed, List.map_cons]
    cases (w.offer o.now o.limit).1.passes with
    | false => exact (ih _).cons _
    | true => exact (ih _).cons_cons _

/-- From the front of a list in order, what is old is all that is old. -/
theorem dropWhile_isOld (now : Instant) {stamps : List Instant} (h : stamps.Pairwise (· ≤ ·)) :
    stamps.dropWhile (isOld now) = stamps.filter fun stamp => !isOld now stamp := by
  induction stamps with
  | nil => rfl
  | cons stamp stamps ih =>
    obtain ⟨hfirst, hrest⟩ := List.pairwise_cons.mp h
    cases hold : isOld now stamp with
    | true =>
      rw [List.dropWhile_cons_of_pos hold, ih hrest, List.filter_cons_of_neg (by simp [hold])]
    | false =>
      rw [List.dropWhile_cons_of_neg (by simp [hold]), List.filter_eq_self.mpr]
      intro later hlater
      rcases List.mem_cons.mp hlater with rfl | hmem
      · rw [hold]
        rfl
      · have hle := hfirst later hmem
        unfold isOld at hold ⊢
        rw [decide_eq_false_iff_not, Nat.not_lt] at hold
        rw [Bool.not_eq_true', decide_eq_false_iff_not, Nat.not_lt]
        exact Nat.le_trans (Nat.sub_le_sub_left hle now) hold

/-- What is old stays old. -/
theorem isOld_mono {now later stamp : Instant} (h : now ≤ later) (hold : isOld now stamp = true) :
    isOld later stamp = true := by
  unfold isOld at hold ⊢
  rw [decide_eq_true_eq] at hold ⊢
  exact Nat.lt_of_lt_of_le hold (Nat.sub_le_sub_right h stamp)

/-- **A window keeps the messages that passed within the last second**, as of the last offer and at any time
after it. -/
theorem stamps_forget_after {offers : List Offer} (hsorted : (offers.map Offer.now).Pairwise (· ≤ ·))
    {later : Instant} (hlater : ∀ o ∈ offers, o.now ≤ later) :
    ((empty.after offers).forget later).stamps = (empty.passed offers).filter fun stamp => !isOld later stamp := by
  induction offers using List.reverseRecOn generalizing later with
  | nil => rfl
  | append_singleton offers o ih =>
    have hnow : o.now ≤ later := hlater o (List.mem_append_right _ List.mem_cons_self)
    rw [List.map_append, List.map_singleton, List.pairwise_append] at hsorted
    obtain ⟨hbefore, -, hlast⟩ := hsorted
    have hle (x : Offer) (hx : x ∈ offers) : x.now ≤ o.now :=
      hlast x.now (List.mem_map_of_mem hx) o.now List.mem_cons_self
    have hkept := ih hbefore hle
    have hordered : (empty.passed (offers ++ [o])).Pairwise (· ≤ ·) := by
      refine List.Pairwise.sublist (passed_sublist _ _) ?_
      rw [List.map_append, List.map_singleton, List.pairwise_append]
      exact ⟨hbefore, List.pairwise_singleton _ _, hlast⟩
    -- after this offer the window has what it kept, and the message if it passed
    have hstamps : ((empty.after offers).offer o.now o.limit).2.stamps =
        (empty.passed (offers ++ [o])).filter fun stamp => !isOld o.now stamp := by
      have hself : isOld o.now o.now = false := by
        unfold isOld
        simp
      rw [passed_snoc, List.filter_append, ← hkept]
      obtain ⟨-, ⟨-, ho⟩ | ⟨-, ho⟩⟩ | ⟨-, ⟨-, ho⟩ | ⟨-, ho⟩⟩ := (empty.after offers).offer_cases o.now o.limit <;>
        simp [ho, hself]
    unfold forget
    dsimp only
    rw [after_snoc, hstamps, dropWhile_isOld later (hordered.filter _), List.filter_filter]
    refine List.filter_congr fun stamp _ => ?_
    cases hold : isOld o.now stamp with
    | false => rw [Bool.not_false, Bool.and_true]
    | true => rw [isOld_mono hnow hold, Bool.not_true, Bool.false_and]

theorem passes_iff_room (w : Window) (now : Instant) (limit : UInt64) :
    (w.offer now limit).1.passes = true ↔ (w.forget now).stamps.length < limit.toNat := by
  obtain ⟨hroom, ⟨-, ho⟩ | ⟨-, ho⟩⟩ | ⟨hfull, ⟨-, ho⟩ | ⟨-, ho⟩⟩ := w.offer_cases now limit
  · rw [ho]
    exact iff_of_true rfl hroom
  · rw [ho]
    exact iff_of_true rfl hroom
  · rw [ho]
    exact iff_of_false Bool.false_ne_true hfull
  · rw [ho]
    exact iff_of_false Bool.false_ne_true hfull

/-- **A message passes if fewer passed within the last second than the limit allows.** -/
theorem passes_iff_recent {offers : List Offer} {o : Offer}
    (hsorted : ((offers ++ [o]).map Offer.now).Pairwise (· ≤ ·)) :
    ((empty.after offers).offer o.now o.limit).1.passes = true ↔
      ((empty.passed offers).countP fun stamp => !isOld o.now stamp) < o.limit.toNat := by
  rw [List.map_append, List.map_singleton, List.pairwise_append] at hsorted
  obtain ⟨hbefore, -, hlast⟩ := hsorted
  have hle (x : Offer) (hx : x ∈ offers) : x.now ≤ o.now :=
    hlast x.now (List.mem_map_of_mem hx) o.now List.mem_cons_self
  rw [passes_iff_room, stamps_forget_after hbefore hle, List.countP_eq_length_filter]

/-- A message counts for a second, to the nanosecond. -/
example : empty.decisions [⟨0, 1⟩, ⟨1000000000, 1⟩, ⟨1000000001, 1⟩] =
    [⟨true, none⟩, ⟨false, some 1⟩, ⟨true, none⟩] := by decide

/-! ### What passes at one instant -/

variable {start : Instant}

/-- A message passes if fewer have passed than the limit allows. -/
theorem passes_iff {o : Offer} (h : ∀ x ∈ offers ++ [o], x.now = start) :
    ((empty.after offers).offer o.now o.limit).1.passes = true ↔
      (empty.decisions offers).countP Decision.passes < o.limit.toNat := by
  obtain ⟨hbefore, hlast⟩ := List.forall_mem_append.mp h
  have hnow : o.now = start := hlast o List.mem_cons_self
  have hsorted : ((offers ++ [o]).map Offer.now).Pairwise (· ≤ ·) := by
    rw [List.map_congr_left h, List.map_const']
    exact List.pairwise_replicate.mpr (.inr (Nat.le_refl start))
  -- nothing that passed is old
  have hrecent : ((empty.passed offers).countP fun stamp => !isOld o.now stamp) = (empty.passed offers).length := by
    refine List.countP_eq_length.mpr fun stamp hstamp => ?_
    obtain ⟨x, hx, rfl⟩ := List.mem_map.mp ((passed_sublist _ _).subset hstamp)
    rw [hbefore x hx, hnow]
    unfold isOld
    simp
  rw [passes_iff_recent hsorted, hrecent, length_passed]

/-- The last report was when some message was offered. -/
theorem lastReport_after (offers : List Offer) :
    ∀ last ∈ (empty.after offers).lastReport, ∃ o ∈ offers, o.now = last := by
  induction offers using List.reverseRecOn with
  | nil => exact nofun
  | append_singleton offers o ih =>
    have hkept (last : Instant) (hlast : last ∈ (empty.after offers).lastReport) :
        ∃ x ∈ offers ++ [o], x.now = last := by
      obtain ⟨x, hx, htime⟩ := ih last hlast
      exact ⟨x, List.mem_append_left _ hx, htime⟩
    have hnow (last : Instant) (hlast : last ∈ some o.now) : ∃ x ∈ offers ++ [o], x.now = last :=
      ⟨o, List.mem_append_right _ List.mem_cons_self, Option.some.inj hlast⟩
    rw [after_snoc]
    obtain ⟨-, ⟨-, ho⟩ | ⟨-, ho⟩⟩ | ⟨-, ⟨-, ho⟩ | ⟨-, ho⟩⟩ := (empty.after offers).offer_cases o.now o.limit
    · rw [ho]
      exact hnow
    · rw [ho]
      exact hkept
    · rw [ho]
      exact hnow
    · rw [ho]
      exact hkept

/-- While the clock stands still a report is due only if nothing was dropped yet. -/
theorem all_pass_of_isReportDue (h : ∀ o ∈ offers, o.now = start)
    (hdue : (empty.after offers).isReportDue start = true) :
    (empty.decisions offers).all Decision.passes = true := by
  rw [← (follows_after offers).lastReport_isNone]
  cases hlast : (empty.after offers).lastReport with
  | none => rfl
  | some last =>
    obtain ⟨o, ho, rfl⟩ := lastReport_after offers last hlast
    unfold isReportDue at hdue
    rw [hlast, h o ho, Option.all_some, Nat.sub_self] at hdue
    exact absurd hdue (by decide)

/-- **There is no report but with a message that passes or with the first that is dropped.** -/
theorem reports_only (h : ∀ o ∈ offers, o.now = start) {before later : List Decision} {d : Decision}
    (hsplit : empty.decisions offers = before ++ d :: later) (hreport : d.report.isSome = true) :
    d.passes = true ∨ before.all Decision.passes = true := by
  induction offers using List.reverseRecOn generalizing later with
  | nil => exact absurd hsplit.symm (List.append_ne_nil_of_right_ne_nil _ (List.cons_ne_nil _ _))
  | append_singleton offers o ih =>
    obtain ⟨hbefore, hlast⟩ := List.forall_mem_append.mp h
    have hnow : o.now = start := hlast o List.mem_cons_self
    rw [decisions_snoc] at hsplit
    cases later using List.reverseRecOn with
    | nil =>
      obtain ⟨rfl, hd⟩ := List.append_inj' hsplit rfl
      obtain rfl := List.singleton_inj.mp hd
      obtain ⟨-, ⟨-, ho⟩ | ⟨-, ho⟩⟩ | ⟨-, ⟨hdue, -⟩ | ⟨-, ho⟩⟩ := (empty.after offers).offer_cases o.now o.limit
      · exact .inl (congrArg (·.1.passes) ho)
      · exact .inl (congrArg (·.1.passes) ho)
      · rw [hnow] at hdue
        exact .inr (all_pass_of_isReportDue hbefore hdue)
      · rw [ho] at hreport
        cases hreport
    | append_singleton later last =>
      rw [← List.cons_append, ← List.append_assoc] at hsplit
      exact ih hbefore (List.append_inj' hsplit rfl).1

/-- **Under one limit, as many messages pass as it allows**, if there are as many. -/
theorem count_passes (h : ∀ o ∈ offers, o.now = start) {limit : UInt64} (hlimit : ∀ o ∈ offers, o.limit = limit) :
    (empty.decisions offers).countP Decision.passes = min limit.toNat offers.length := by
  induction offers using List.reverseRecOn with
  | nil => exact (Nat.min_zero _).symm
  | append_singleton offers o ih =>
    obtain ⟨hlimits, hlast⟩ := List.forall_mem_append.mp hlimit
    obtain rfl := hlast o List.mem_cons_self
    have hcount := ih (List.forall_mem_append.mp h).1 hlimits
    have hpasses := passes_iff h
    rw [decisions_snoc, countP_passes_snoc, List.length_append, List.length_singleton]
    simp only [hpasses]
    split <;> omega

end Window

/-! ## Journals -/

namespace Journal

/-- Something that is done with a journal, or time that passes: a setting is changed, or a message is offered. -/
inductive Call
  | setOverall (level : Level)
  | setLevel (c : Category) (level : Level)
  | setLimit (limit : UInt64)
  /-- Every level is switched off. -/
  | reset
  | log (c : Category) (level : Level) (message : Unit → String)
  /-- Some nanoseconds pass. -/
  | wait (time : Nat)

/-- The journal after a call. -/
def perform (j : Journal) : Call → Journal
  | .setOverall level => { j with overall := level }
  | .setLevel c level => { j with levels := j.levels.set c level }
  | .setLimit limit => { j with limit := limit }
  | .reset => j.reset
  | .log c level message => (j.record c level message).2
  | .wait time => j.wait time

/-- The journal after some calls. -/
def after (j : Journal) (calls : List Call) : Journal := calls.foldl perform j

/-- Whether a call offers a message of a category that is wanted. -/
def offers (j : Journal) (c : Category) : Call → Bool
  | .log d level _ => d == c && j.wants d level
  | _ => false

/-- The wanted messages of a category: when they are offered, and under which limits. -/
def offered (j : Journal) (c : Category) : List Call → List Window.Offer
  | [] => []
  | call :: calls => (if j.offers c call then [⟨j.clock, j.limit⟩] else []) ++ (j.perform call).offered c calls

/-- The decisions on the wanted messages of a category. -/
def decisions (j : Journal) (c : Category) : List Call → List Decision
  | [] => []
  | call :: calls =>
    (if j.offers c call then [((j.windows.get c).offer j.clock j.limit).1] else []) ++
      (j.perform call).decisions c calls

/-- The lines that a decision on a message puts into the journal. -/
def linesOf (c : Category) (level : Level) (message : Unit → String) (d : Decision) : List String :=
  (d.report.map (reportLine c)).toList ++ if d.passes then [line level c (message ())] else []

/-- The limit that some calls set last, or the limit there is from the start. -/
def limitAfter (calls : List Call) : UInt64 :=
  (calls.reverse.findSome? fun
    | .setLimit limit => some limit
    | _ => none).getD defaultLimit

/-- All the calls are made at one instant: no time passes between them. -/
def AtOneInstant (calls : List Call) : Prop := ∀ time, Call.wait time ∉ calls

/-- The call does not offer a message of another category. -/
def Call.concerns (c : Category) : Call → Bool
  | .log d _ _ => d == c
  | _ => true

/-- A journal that wants nothing, made when the clock shows some time. -/
def fresh (start : Instant) : Journal := { silent with clock := start }

theorem after_snoc (j : Journal) (calls : List Call) (call : Call) :
    j.after (calls ++ [call]) = (j.after calls).perform call := by
  unfold after
  rw [List.foldl_append]
  rfl

theorem decisions_snoc (j : Journal) (c : Category) (calls : List Call) (call : Call) :
    j.decisions c (calls ++ [call]) = j.decisions c calls ++
      if (j.after calls).offers c call then
        [(((j.after calls).windows.get c).offer (j.after calls).clock (j.after calls).limit).1]
      else [] := by
  induction calls generalizing j with
  | nil =>
    show _ ++ [] = _
    rw [List.append_nil]
    rfl
  | cons first calls ih =>
    rw [List.cons_append, decisions, decisions, ih, List.append_assoc]
    rfl

/-- **A message that is wanted is decided on**, and the journal has the lines of that. -/
theorem record_of_wants {j : Journal} {c : Category} {level : Level} (h : j.wants c level = true)
    (message : Unit → String) :
    j.record c level message =
      (((j.windows.get c).offer j.clock j.limit).1.passes,
        { j with
          windows := j.windows.set c ((j.windows.get c).offer j.clock j.limit).2
          lines := (linesOf c level message ((j.windows.get c).offer j.clock j.limit).1).reverse ++ j.lines }) := by
  unfold record
  rw [if_pos h]
  obtain ⟨⟨passes, report⟩, w⟩ := (j.windows.get c).offer j.clock j.limit
  cases passes <;> cases report <;> rfl

/-- A message changes nothing but the windows and the lines. -/
theorem perform_log (j : Journal) (c : Category) (level : Level) (message : Unit → String) :
    ∃ windows lines, j.perform (.log c level message) = { j with windows := windows, lines := lines } := by
  show ∃ windows lines, (j.record c level message).2 = _
  cases hwants : j.wants c level with
  | false => exact ⟨j.windows, j.lines, congrArg Prod.snd (record_of_not_wants hwants message)⟩
  | true => exact ⟨_, _, congrArg Prod.snd (record_of_wants hwants message)⟩

/-- A call changes the window of a category if it offers a wanted message of that category. -/
theorem window_perform (j : Journal) (c : Category) (call : Call) :
    (j.perform call).windows.get c =
      if j.offers c call then ((j.windows.get c).offer j.clock j.limit).2 else j.windows.get c := by
  cases call with
  | setOverall | setLevel | setLimit | reset | wait => rfl
  | log d level message =>
    show (j.record d level message).2.windows.get c = if (d == c && j.wants d level) = true then _ else _
    cases hwants : j.wants d level with
    | false =>
      rw [record_of_not_wants hwants, Bool.and_false]
      rfl
    | true =>
      rw [record_of_wants hwants]
      show (j.windows.set d ((j.windows.get d).offer j.clock j.limit).2).get c = _
      rw [PerCategory.get_set, Bool.and_true]
      by_cases hsame : d = c
      · subst hsame
        rw [if_pos rfl, if_pos (beq_self_eq_true d)]
      · rw [if_neg hsame, if_neg fun h => hsame (beq_iff_eq.mp h)]

/-- **The messages of a category are decided on in a window of their own.** -/
theorem decisions_eq (j : Journal) (c : Category) (calls : List Call) :
    j.decisions c calls = (j.windows.get c).decisions (j.offered c calls) ∧
      (j.after calls).windows.get c = (j.windows.get c).after (j.offered c calls) := by
  induction calls generalizing j with
  | nil => exact ⟨rfl, rfl⟩
  | cons call calls ih =>
    obtain ⟨hdecisions, hwindow⟩ := ih (j.perform call)
    have hone := j.window_perform c call
    show _ ++ _ = Window.decisions _ (_ ++ _) ∧ ((j.perform call).after calls).windows.get c = Window.after _ (_ ++ _)
    rw [hdecisions, hwindow, hone]
    cases j.offers c call <;> exact ⟨rfl, rfl⟩

/-- The limit is the one that was set last. -/
theorem limit_after (start : Instant) (calls : List Call) : ((fresh start).after calls).limit = limitAfter calls := by
  induction calls using List.reverseRecOn with
  | nil => rfl
  | append_singleton calls call ih =>
    unfold limitAfter at *
    rw [after_snoc, List.reverse_append, List.reverse_singleton, List.singleton_append, List.findSome?_cons]
    cases call with
    | setLimit => rfl
    | setOverall | setLevel | reset | wait => exact ih
    | log c level message =>
      obtain ⟨windows, lines, hlog⟩ := perform_log ((fresh start).after calls) c level message
      rw [hlog]
      exact ih

/-- The clock stands still while nothing waits. -/
theorem clock_perform (j : Journal) {call : Call} (h : ∀ time, call ≠ .wait time) : (j.perform call).clock = j.clock := by
  cases call with
  | setOverall | setLevel | setLimit | reset => rfl
  | log c level message =>
    obtain ⟨windows, lines, hlog⟩ := j.perform_log c level message
    rw [hlog]
  | wait time => exact absurd rfl (h time)

/-- **At one instant the clock stands still**, so that all messages are offered at that time. -/
theorem AtOneInstant.clock {calls : List Call} (h : AtOneInstant calls) (j : Journal) (c : Category) :
    (j.after calls).clock = j.clock ∧ ∀ o ∈ j.offered c calls, o.now = j.clock := by
  induction calls generalizing j with
  | nil => exact ⟨rfl, nofun⟩
  | cons call calls ih =>
    have hkept : (j.perform call).clock = j.clock :=
      j.clock_perform fun time hwait => h time (hwait ▸ List.mem_cons_self)
    obtain ⟨hclock, hoffers⟩ := ih (fun time hmem => h time (List.mem_cons_of_mem _ hmem)) (j.perform call)
    refine ⟨hclock.trans hkept, fun o ho => ?_⟩
    rcases List.mem_append.mp ho with hfirst | hrest
    · split at hfirst
      · exact congrArg Window.Offer.now (List.mem_singleton.mp hfirst)
      · cases hfirst
    · exact (hoffers o hrest).trans hkept

/-! ## Other categories -/

/-- Two journals are the same as far as the messages of a category go. -/
structure SameFor (c : Category) (j k : Journal) : Prop where
  overall_eq : j.overall = k.overall
  levels_eq : j.levels = k.levels
  limit_eq : j.limit = k.limit
  clock_eq : j.clock = k.clock
  window_eq : j.windows.get c = k.windows.get c

variable {c : Category} {j k : Journal}

theorem SameFor.wants_eq (h : SameFor c j k) (d : Category) (level : Level) : j.wants d level = k.wants d level := by
  unfold wants threshold
  rw [h.overall_eq, h.levels_eq]

theorem SameFor.offers_eq (h : SameFor c j k) (call : Call) : j.offers c call = k.offers c call := by
  cases call with
  | log d level message => exact congrArg (d == c && ·) (h.wants_eq d level)
  | setOverall | setLevel | setLimit | reset | wait => rfl

/-- The same call leaves them the same. -/
theorem SameFor.perform (h : SameFor c j k) (call : Call) : SameFor c (j.perform call) (k.perform call) := by
  have hwindow : (j.perform call).windows.get c = (k.perform call).windows.get c := by
    rw [window_perform, window_perform, h.offers_eq, h.window_eq, h.clock_eq, h.limit_eq]
  cases call with
  | setOverall level => exact { h with overall_eq := rfl, window_eq := hwindow }
  | reset => exact { h with overall_eq := rfl, levels_eq := rfl, window_eq := hwindow }
  | setLevel d level => exact { h with levels_eq := congrArg (·.set d level) h.levels_eq, window_eq := hwindow }
  | setLimit limit => exact { h with limit_eq := rfl, window_eq := hwindow }
  | wait time => exact { h with clock_eq := congrArg (· + time) h.clock_eq, window_eq := hwindow }
  | log d level message =>
    obtain ⟨_, _, hj⟩ := j.perform_log d level message
    obtain ⟨_, _, hk⟩ := k.perform_log d level message
    rw [hj, hk] at hwindow ⊢
    exact { h with window_eq := hwindow }

/-- A message of another category leaves a journal the same. -/
theorem SameFor.of_not_concerns (h : SameFor c j k) {call : Call} (hother : call.concerns c = false) :
    SameFor c j (k.perform call) ∧ k.offers c call = false := by
  cases call with
  | setOverall | setLevel | setLimit | reset | wait => cases hother
  | log d level message =>
    have hoffers : k.offers c (.log d level message) = false := Bool.and_eq_false_iff.mpr (.inl hother)
    obtain ⟨_, _, hk⟩ := k.perform_log d level message
    have hwindow := k.window_perform c (.log d level message)
    rw [hoffers, if_neg Bool.false_ne_true] at hwindow
    rw [hk] at hwindow ⊢
    exact ⟨{ h with window_eq := h.window_eq.trans hwindow.symm }, hoffers⟩

/-- **The messages of other categories have no part in the decisions.** -/
theorem SameFor.decisions_filter (h : SameFor c j k) (calls : List Call) :
    j.decisions c (calls.filter (Call.concerns c)) = k.decisions c calls := by
  induction calls generalizing j k with
  | nil => rfl
  | cons call calls ih =>
    cases hconcerns : call.concerns c with
    | true =>
      rw [List.filter_cons_of_pos hconcerns, decisions, decisions, ih (h.perform call), h.offers_eq, h.window_eq,
        h.clock_eq, h.limit_eq]
    | false =>
      obtain ⟨hsame, hoffers⟩ := h.of_not_concerns hconcerns
      rw [List.filter_cons_of_neg (Bool.eq_false_iff.mp hconcerns), decisions, hoffers, ih hsame]
      rfl

/-! ## The law -/

/-- **No message is lost from the count.** Take a fresh journal and any calls, and any category. Its wanted messages
are as many as were written, as all its reports say together and as have been dropped since, as far as numbers of
64 bits can tell; and exactly as many, as long as there are fewer than such a number can count. What has been
dropped since is what the window of the category holds. The next message of the category,
if it is wanted, is decided on, and the lines of that decision are added to the journal; the text of one that is
dropped has no part in what happens. A message that is not wanted changes nothing at all. All this is as if no
messages of other categories had been offered.

If all the calls are made at one instant, the next message is made and written if fewer have been written than the
limit set last allows. Reports come with the first message that is dropped or with one that is written, and nowhere
else. Under one limit as many messages are written as it allows, if there are as many. -/
theorem no_message_lost (c : Category) (start : Instant) (calls : List Call) :
    let now := (fresh start).after calls
    let offered := (fresh start).offered c calls
    let decisions := (fresh start).decisions c calls
    decisions.length = offered.length ∧
      UInt64.ofNat decisions.length = .ofNat (decisions.countP Decision.passes + Window.reported decisions +
        Window.unreported decisions) ∧
      (decisions.length < 2 ^ 64 → decisions.length =
        decisions.countP Decision.passes + Window.reported decisions + Window.unreported decisions) ∧
      (now.windows.get c).dropped = .ofNat (Window.unreported decisions) ∧
      (∀ level message, now.wants c level = true →
        ∃ d, (fresh start).decisions c (calls ++ [.log c level message]) = decisions ++ [d] ∧
          (now.record c level message).1 = d.passes ∧
          (now.record c level message).2.lines = (linesOf c level message d).reverse ++ now.lines ∧
          (d.passes = false → ∀ other, now.record c level other = now.record c level message) ∧
          (AtOneInstant calls →
            (d.passes = true ↔ decisions.countP Decision.passes < (limitAfter calls).toNat))) ∧
      (∀ level message, now.wants c level = false →
        now.record c level message = (false, now) ∧
          (fresh start).decisions c (calls ++ [.log c level message]) = decisions) ∧
      (fresh start).decisions c (calls.filter (Call.concerns c)) = decisions ∧
      (AtOneInstant calls →
        (∀ before d later, decisions = before ++ d :: later → d.report.isSome = true →
          d.passes = true ∨ before.all Decision.passes = true) ∧
        ∀ limit, (∀ o ∈ offered, o.limit = limit) →
          decisions.countP Decision.passes = min limit.toNat decisions.length) := by
  intro now offered decisions
  have hstart : (fresh start).windows.get c = Window.empty := PerCategory.get_replicate Window.empty c
  obtain ⟨hdecisions, hwindow⟩ : decisions = Window.empty.decisions offered ∧
      now.windows.get c = Window.empty.after offered := hstart ▸ (fresh start).decisions_eq c calls
  have hlength : decisions.length = offered.length := hdecisions ▸ Window.empty.length_decisions offered
  have hsnoc (call : Call) := (fresh start).decisions_snoc c calls call
  refine ⟨hlength, ?_, fun hfits => ?_, ?_, fun level message hwants => ?_, fun level message hwants => ?_, ?_,
    fun hinstant => ?_⟩
  · rw [hlength, hdecisions]
    exact UInt64.toNat_inj.mp (Window.accounted_mod offered).symm
  · rw [hlength, hdecisions]
    exact (Window.accounted_eq (hlength ▸ hfits)).symm
  · rw [hwindow, hdecisions]
    exact (Window.follows_after offered).dropped_eq
  · have hoffers : now.offers c (.log c level message) = true := by
      show (c == c && now.wants c level) = true
      rw [hwants, beq_self_eq_true]
      rfl
    have hrecord := record_of_wants hwants
    refine ⟨((now.windows.get c).offer now.clock now.limit).1, ?_, ?_, ?_, fun hdropped other => ?_, fun hinstant => ?_⟩
    · rw [hsnoc, if_pos hoffers]
    · rw [hrecord]
    · rw [hrecord]
    · rw [hrecord, hrecord]
      unfold linesOf
      rw [hdropped]
      rfl
    · obtain ⟨hclock, htimes⟩ := hinstant.clock (fresh start) c
      have hall : ∀ x ∈ offered ++ [⟨now.clock, now.limit⟩], x.now = start :=
        List.forall_mem_append.mpr ⟨htimes, List.forall_mem_singleton.mpr hclock⟩
      have hpasses := Window.passes_iff hall
      rw [hdecisions, hwindow, ← limit_after start]
      exact hpasses
  · have hoffers : now.offers c (.log c level message) = false := by
      show (c == c && now.wants c level) = false
      rw [hwants, Bool.and_false]
    refine ⟨record_of_not_wants hwants message, ?_⟩
    rw [hsnoc, if_neg (Bool.eq_false_iff.mp hoffers), List.append_nil]
  · exact SameFor.decisions_filter ⟨rfl, rfl, rfl, rfl, rfl⟩ calls
  · obtain ⟨-, htimes⟩ := hinstant.clock (fresh start) c
    refine ⟨fun before d later hsplit => ?_, fun limit hlimits => ?_⟩
    · exact Window.reports_only htimes (hdecisions.symm.trans hsplit)
    · rw [hlength, hdecisions]
      exact Window.count_passes htimes hlimits

/-- Of three messages under a limit of one, among others that are not wanted or not of the category, one is written,
one dropped and reported, and one dropped. -/
theorem no_message_lost_limit_of_one :
    let message : Unit → String := fun _ => "text"
    let calls : List Call :=
      [.setOverall .warn, .setLimit 1, .log .bus .warn message, .log .bus .error message, .log .ioChip .warn message,
        .log .bus .debug message, .log .bus .warn message]
    let now := (fresh 5).after calls
    let decisions := (fresh 5).decisions .bus calls
    AtOneInstant calls ∧ decisions = [⟨true, none⟩, ⟨false, some 1⟩, ⟨false, none⟩] ∧
      decisions.length =
        decisions.countP Decision.passes + Window.reported decisions + Window.unreported decisions ∧
      (∀ o ∈ (fresh 5).offered .bus calls, o.limit = 1) ∧
      decisions.countP Decision.passes = min 1 decisions.length ∧
      now.wants .bus .warn = true ∧ (now.record .bus .warn message).1 = false ∧
      now.wants .bus .debug = false ∧ now.record .bus .debug message = (false, now) := by
  intro message calls now decisions
  have hinstant : AtOneInstant calls := by
    intro time hwait
    simp [calls] at hwait
  have hwanted : now.wants .bus .warn = true := by decide
  have hunwanted : now.wants .bus .debug = false := by decide
  have hlimits : ∀ o ∈ (fresh 5).offered .bus calls, o.limit = 1 := by decide
  obtain ⟨-, -, hexact, -, hnext, hnothing, -, hlaw⟩ := no_message_lost .bus 5 calls
  obtain ⟨-, hconstant⟩ := hlaw hinstant
  obtain ⟨d, -, hwritten, -, -, hpasses⟩ := hnext .warn message hwanted
  have hdropped : d.passes = false := Bool.eq_false_iff.mpr fun hd => absurd ((hpasses hinstant).mp hd) (by decide)
  exact ⟨hinstant, by decide, hexact (by decide), hlimits, hconstant 1 hlimits, hwanted, hwritten.trans hdropped,
    hunwanted, (hnothing .debug message hunwanted).1⟩

end Journal

end Arcade
