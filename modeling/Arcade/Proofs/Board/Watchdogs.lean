import Arcade.Proofs.Board.Operation
import Arcade.Proofs.Memory.Decode
import Arcade.Proofs.Watchdog

/-!
# `Arcade.Proofs.Board.Watchdogs` — when a watchdog resets the machine

Main and sound have a watchdog each. What happens to it can be read off what is done to the board
(`Board.watchdogEvents`): accesses to its window service it, the end of a frame ends a frame for it unless
its processor is held, and a reset of the machine restarts it. The watchdog of sound is also restarted
when the reset line of sub and sound is asserted. So the end of a frame resets the machine if the history
of either watchdog makes that frame the last of its period.

The two are independent until one of them expires. Then the machine is reset once, both begin anew, and
main is named if both expired.

## Contents
- `Operation.services`, `Board.watchdogEvents`, `Board.watchdogHistory`.
- `watchdog?_perform`: what an operation does to a watchdog is what its events do.
- `Board.expires`: whether a watchdog would expire now.
- `Board.WatchdogsFollow`, kept by every operation and every history.
- `watchdogResets_perform`, `watchdogResets_after`: the count of resets.
- `Board.WatchdogDue` and `watchdog_resets_follow_history`.
-/

namespace Arcade

/-- Whether an operation is an access of a processor to the window of its watchdog. -/
def Operation.services (p : Processor) : Operation → Bool
  | .read q a => q = p && AddressMap.watchdogWindow q .read a
  | .write q a _ => q = p && AddressMap.watchdogWindow q .write a
  | _ => false

/-- Whether an operation sets the reset line of sub and sound. -/
def Operation.holds : Operation → Bool
  | .write q a _ => AddressMap.holdWindow q a
  | _ => false

/-- Whether the end of a frame told of a reset by a watchdog. -/
def Answer.tellsReset : Answer → Bool
  | .sync report => report.watchdogReset.isSome
  | _ => false

namespace Board

variable {S : Type}

/-! ## What accesses do to a watchdog -/

theorem watchdog?_serviceWatchdog (b : Board S) (p q : Processor) :
    (b.serviceWatchdog q).watchdog? p =
      (b.watchdog? p).map fun w => if q = p then w.service else w := by
  cases q <;> cases p <;> rfl

theorem watchdog?_read (b : Board S) (p q : Processor) (a : UInt16) :
    (b.read q a).2.watchdog? p =
      (b.watchdog? p).map fun w => if (Operation.read q a).services p then w.service else w := by
  have hwindow : AddressMap.decode q a .read = .watchdog ↔ _ := AddressMap.decode_watchdog_iff
  obtain ⟨j, hj⟩ := b.read_snd q a
  rw [hj]
  cases hd : AddressMap.decode q a .read with
  | watchdog =>
    have hservices : (Operation.read q a).services p = decide (q = p) := by
      simp [Operation.services, hwindow.mp hd]
    simp only [hservices, decide_eq_true_eq]
    exact b.watchdog?_serviceWatchdog p q
  | ram _ | rom _ | io _ _ | control _ | unmapped =>
    have hservices : (Operation.read q a).services p = false := by
      simp [Operation.services, ← Bool.not_eq_true, ← hwindow, hd]
    rw [hservices]
    exact Option.map_id'.symm

theorem watchdog?_ticked (b : Board S) (p : Processor) :
    b.ticked.watchdog? p =
      (b.watchdog? p).map fun w => w.after (if b.isHeld p then [] else [.frame]) := by
  cases p with
  | main | sub => rfl
  | sound =>
    show some (if b.isHeld .sound then _ else _) = some (b.soundWatchdog.after _)
    cases b.isHeld .sound <;> rfl

section Chip

variable [SoundChip S]

/-- What an operation means to the watchdog of a processor, in the order in which it happens. -/
def watchdogEvents (b : Board S) (p : Processor) (op : Operation) : List Watchdog.Event :=
  match op with
  | .machineReset => [.restart]
  | .frameSync =>
    (if b.isHeld p then [] else [.frame]) ++
      if b.frameSync.1.watchdogReset.isSome then [.restart] else []
  | op =>
    if op.services p then [.service]
    else if p = .sound ∧ op.holds = true ∧ b.controls.secondariesHeld = false then [.restart]
    else []

/-- What a list of operations means to the watchdog of a processor. -/
def watchdogHistory (b : Board S) (p : Processor) : List Operation → List Watchdog.Event
  | [] => []
  | op :: ops => b.watchdogEvents p op ++ (b.perform op).2.watchdogHistory p ops

/-- The reset line of sub and sound restarts the watchdog of sound when it is asserted. -/
theorem watchdog?_holdSecondaries (b : Board S) (p : Processor) (asserted : Bool) :
    (b.holdSecondaries asserted).watchdog? p =
      (b.watchdog? p).map fun w =>
        if p = .sound ∧ asserted = true ∧ b.controls.secondariesHeld = false then w.restart else w := by
  rw [holdSecondaries_eq, assertsHold]
  cases p with
  | main | sub => rfl
  | sound => cases asserted <;> cases b.controls.secondariesHeld <;> rfl

theorem watchdog?_control (b : Board S) (p q : Processor) (s : Switch) (data : UInt8) :
    (b.control q s data).watchdog? p =
      (b.watchdog? p).map fun w =>
        if p = .sound ∧ s = .secondaries false ∧ b.controls.secondariesHeld = false then w.restart
        else w := by
  obtain ⟨j, hj⟩ := b.control_eq q s data
  rw [hj]
  cases s with
  | secondaries release =>
    show (b.holdSecondaries (!release)).watchdog? p = _
    rw [watchdog?_holdSecondaries]
    cases release <;> simp
  | interrupt _ _ | ioChips _ | starfield _ => cases p <;> rfl

theorem watchdog?_write (b : Board S) (p q : Processor) (a : UInt16) (data : UInt8) :
    (b.write q a data).watchdog? p =
      (b.watchdog? p).map fun w => w.after (b.watchdogEvents p (.write q a data)) := by
  have hwindow : AddressMap.decode q a .write = .watchdog ↔ _ := AddressMap.decode_watchdog_iff
  have hhold := AddressMap.decode_hold_iff (p := q) (a := a)
  have hevents : b.watchdogEvents p (.write q a data) =
      if (q = p && AddressMap.watchdogWindow q .write a) = true then [.service]
      else if p = .sound ∧ AddressMap.holdWindow q a = true ∧ b.controls.secondariesHeld = false then
        [.restart]
      else [] := rfl
  obtain ⟨j, hj⟩ := b.write_eq q a data
  rw [hj, hevents]
  cases hd : AddressMap.decode q a .write with
  | watchdog =>
    simp only [hd, true_iff, reduceCtorEq, false_iff, Bool.not_eq_true] at hwindow hhold
    rw [hwindow, hhold]
    refine (b.watchdog?_serviceWatchdog p q).trans (Option.map_congr fun w _ => ?_)
    by_cases hq : q = p <;> simp [hq, Watchdog.after, Watchdog.react]
  | control s =>
    simp only [hd, Target.control.injEq, reduceCtorEq, false_iff, Bool.not_eq_true] at hwindow hhold
    simp only [hwindow, ← hhold, Bool.and_false, Bool.false_eq_true, if_false]
    refine (b.watchdog?_control p q s data).trans (Option.map_congr fun w _ => ?_)
    split <;> rfl
  | ram _ | rom _ | io _ _ | unmapped =>
    simp only [hd, reduceCtorEq, false_iff, Bool.not_eq_true] at hwindow hhold
    rw [hwindow, hhold]
    simp [Watchdog.after]
    rfl

/-! ## What the other operations do to a watchdog -/

theorem watchdog?_machineReset (b : Board S) (p : Processor) :
    b.machineReset.watchdog? p = (b.watchdog? p).map Watchdog.restart := by
  obtain ⟨j, hj⟩ := b.machineReset_eq
  rw [hj]
  cases p <;> rfl

theorem watchdog?_frameSync (b : Board S) (p : Processor) :
    b.frameSync.2.watchdog? p =
      (b.watchdog? p).map fun w => w.after (b.watchdogEvents p .frameSync) := by
  -- requesting interrupts touches neither a watchdog nor the reset line
  have hticked : b.vblank.ticked.watchdog? p =
      (b.watchdog? p).map fun w => w.after (if b.isHeld p then [] else [.frame]) :=
    b.vblank.watchdog?_ticked p
  have hevents : b.watchdogEvents p .frameSync =
      (if b.isHeld p then [] else [.frame]) ++ if b.expired.isSome then [.restart] else [] := by
    rw [← frameSync_watchdogReset]
    rfl
  rw [frameSync_eq, hevents]
  cases b.expired with
  | none =>
    rw [hticked]
    simp
  | some q =>
    show ((b.vblank.ticked.countReset q).machineReset).watchdog? p = _
    rw [watchdog?_machineReset]
    show (b.vblank.ticked.watchdog? p).map _ = _
    rw [hticked, Option.map_map]
    refine Option.map_congr fun w _ => ?_
    simp [Watchdog.after, Watchdog.react]

/-- An operation of any other kind means nothing to a watchdog, so it has to leave it alone. -/
theorem watchdog?_other {b c : Board S} {p : Processor} {op : Operation} (hreset : op ≠ .machineReset)
    (hsync : op ≠ .frameSync) (hservices : op.services p = false) (hholds : op.holds = false)
    (h : c.watchdog? p = b.watchdog? p) :
    c.watchdog? p = (b.watchdog? p).map fun w => w.after (b.watchdogEvents p op) := by
  have hnothing : b.watchdogEvents p op = [] := by cases op <;> simp_all [watchdogEvents]
  rw [hnothing, h]
  exact Option.map_id'.symm

/-- **What an operation does to a watchdog is what its events do.** -/
theorem watchdog?_perform (b : Board S) (p : Processor) (op : Operation) :
    (b.perform op).2.watchdog? p =
      (b.watchdog? p).map fun w => w.after (b.watchdogEvents p op) := by
  cases op with
  | read q a =>
    refine (b.watchdog?_read p q a).trans (Option.map_congr fun w _ => ?_)
    have hevents : b.watchdogEvents p (.read q a) =
        if (Operation.read q a).services p then [.service] else [] := by
      simp [watchdogEvents, Operation.holds]
    rw [hevents]
    split <;> rfl
  | write q a data => exact b.watchdog?_write p q a data
  | frameSync => exact b.watchdog?_frameSync p
  | machineReset => exact b.watchdog?_machineReset p
  | beginFrame | takeReset _ | notePc _ _ | setInput _ _ | press _ _ | takeEvents | unloadRom _
    | snapshot _ => exact watchdog?_other nofun nofun rfl rfl rfl
  | configureSlot slot spec wiring =>
    obtain ⟨io, j, hb, -⟩ := b.perform_configureSlot slot spec wiring
    rw [hb]
    exact watchdog?_other nofun nofun rfl rfl rfl
  | loadRom q image =>
    obtain ⟨roms, loaded, hb⟩ := b.perform_loadRom q image
    rw [hb]
    exact watchdog?_other nofun nofun rfl rfl rfl

/-! ## When a watchdog expires -/

omit [SoundChip S] in
/-- Whether the watchdog of a processor would expire now, which it does not while its processor is held. -/
def expires (b : Board S) (p : Processor) : Bool :=
  !b.isHeld p && (b.watchdog? p).any fun w => w.tick.1

omit [SoundChip S] in
theorem expired_eq (b : Board S) :
    b.expired = if b.expires .main then some .main else if b.expires .sound then some .sound else none :=
  rfl

omit [SoundChip S] in
theorem expires_of_expired_eq_none {b : Board S} (h : b.expired = none) (p : Processor) :
    b.expires p = false := by
  rw [expired_eq] at h
  cases p with
  | sub => exact Bool.and_false _
  | main | sound =>
    cases hm : b.expires .main <;> cases hs : b.expires .sound <;> simp [hm, hs] at h ⊢

omit [SoundChip S] in
/-- The watchdogs of a board are as their histories say. -/
def WatchdogsFollow (period : UInt32) (past : Processor → List Watchdog.Event) (b : Board S) : Prop :=
  ∀ p w, b.watchdog? p = some w → w.Follows period (past p)

/-- **Every operation keeps the watchdogs as their histories say.** Whatever expires is restarted. -/
theorem WatchdogsFollow.perform {period : UInt32} {past : Processor → List Watchdog.Event} {b : Board S}
    (h : b.WatchdogsFollow period past) (op : Operation) :
    (b.perform op).2.WatchdogsFollow period fun p => past p ++ b.watchdogEvents p op := by
  intro p w hw
  rw [watchdog?_perform] at hw
  obtain ⟨v, hv, rfl⟩ := Option.map_eq_some_iff.mp hw
  have hfollows := h p v hv
  have hempty : (v.after []).Follows period (past p ++ []) := by rwa [List.append_nil]
  cases op with
  | machineReset => exact hfollows.after_restart []
  | frameSync =>
    simp only [watchdogEvents, frameSync_watchdogReset]
    cases hexpired : b.expired with
    | some q => exact hfollows.after_restart _
    | none =>
      have hlasts := expires_of_expired_eq_none hexpired p
      cases hheld : b.isHeld p with
      | true => exact hempty
      | false =>
        rw [expires, hheld, hv] at hlasts
        exact hfollows.frame hlasts
  | _ =>
    simp only [watchdogEvents]
    split
    · exact hfollows.service
    · split
      · exact hfollows.after_restart []
      · exact hempty

/-- Every history keeps the watchdogs as their histories say. -/
theorem WatchdogsFollow.after {period : UInt32} {past : Processor → List Watchdog.Event} {b : Board S}
    (h : b.WatchdogsFollow period past) (ops : List Operation) :
    (b.after ops).WatchdogsFollow period fun p => past p ++ b.watchdogHistory p ops := by
  induction ops generalizing b past with
  | nil =>
    simp only [watchdogHistory, List.append_nil]
    exact h
  | cons op ops ih =>
    have hrest := ih (h.perform op)
    simp only [List.append_assoc] at hrest
    exact hrest

omit [SoundChip S] in
theorem watchdogsFollow_stock (layout : IoLayout) (inputs : Inputs) {frames : UInt32} (sound : S)
    (h : frames ≠ 0) : (stock layout inputs frames sound).WatchdogsFollow frames fun _ => [] := by
  intro p w hw
  cases p with
  | sub => cases hw
  | main | sound =>
    cases hw
    exact Watchdog.follows_ofPeriod h

/-! ## Counting resets -/

/-- **The count of resets grows by one when the end of a frame tells of one**, and at no other time. -/
theorem watchdogResets_perform (b : Board S) (op : Operation) :
    (b.perform op).2.diagnostics.watchdogResets =
      b.diagnostics.watchdogResets + if (b.perform op).1.tellsReset then 1 else 0 := by
  cases op with
  | read p a =>
    refine Eq.trans ?_ (UInt64.add_zero _).symm
    obtain ⟨j, hj⟩ := b.read_snd p a
    show (b.read p a).2.diagnostics.watchdogResets = _
    rw [hj]
    cases AddressMap.decode p a .read with
    | watchdog => cases p <;> rfl
    | ram _ | rom _ | io _ _ | control _ | unmapped => rfl
  | write p a data =>
    refine Eq.trans ?_ (UInt64.add_zero _).symm
    obtain ⟨j, hj⟩ := b.write_eq p a data
    show (b.write p a data).diagnostics.watchdogResets = _
    rw [hj]
    cases AddressMap.decode p a .write with
    | watchdog => cases p <;> rfl
    | control s =>
      obtain ⟨_, _, _, _, _, _, _, hb, -⟩ := b.control_changes p s data
      dsimp only
      rw [hb]
    | ram _ | rom _ | io _ _ | unmapped => rfl
  | frameSync =>
    show b.frameSync.2.diagnostics.watchdogResets = _ + if b.frameSync.1.watchdogReset.isSome then 1 else 0
    rw [frameSync_eq, frameSync_watchdogReset]
    cases b.expired with
    | none => exact (UInt64.add_zero _).symm
    | some q =>
      obtain ⟨j, hj⟩ := (b.vblank.ticked.countReset q).machineReset_eq
      simp only [hj]
      rfl
  | machineReset =>
    refine Eq.trans ?_ (UInt64.add_zero _).symm
    obtain ⟨j, hj⟩ := b.machineReset_eq
    show b.machineReset.diagnostics.watchdogResets = _
    rw [hj]
  | configureSlot slot spec wiring =>
    have htells : (b.perform (.configureSlot slot spec wiring)).1.tellsReset = false := by
      obtain hdone | ⟨problem, hrefused⟩ := b.configureSlot_answer slot spec wiring
      · rw [hdone]; rfl
      · rw [hrefused]; rfl
    obtain ⟨io, j, hb, -⟩ := b.perform_configureSlot slot spec wiring
    rw [htells, hb]
    exact (UInt64.add_zero _).symm
  | loadRom p image =>
    have htells : (b.perform (.loadRom p image)).1.tellsReset = false := by
      obtain hdone | ⟨problem, hrefused⟩ := b.loadRom_answer p image
      · rw [hdone]; rfl
      · rw [hrefused]; rfl
    obtain ⟨roms, loaded, hb⟩ := b.perform_loadRom p image
    rw [htells, hb]
    exact (UInt64.add_zero _).symm
  | beginFrame | takeReset _ | notePc _ _ | setInput _ _ | press _ _ | takeEvents | unloadRom _
    | snapshot _ => exact (UInt64.add_zero _).symm

theorem watchdogResets_after (b : Board S) (ops : List Operation) :
    (b.after ops).diagnostics.watchdogResets =
      b.diagnostics.watchdogResets + UInt64.ofNat ((b.answers ops).countP Answer.tellsReset) := by
  induction ops generalizing b with
  | nil => exact (UInt64.add_zero _).symm
  | cons op ops ih =>
    show ((b.perform op).2.after ops).diagnostics.watchdogResets = _
    rw [ih, watchdogResets_perform, answers, List.countP_cons, UInt64.add_assoc, UInt64.ofNat_add,
      UInt64.add_comm (UInt64.ofNat _)]
    split <;> rfl

/-! ## The law -/

/-- Whether the frame that ends after a history is the last of the period of a watchdog: its processor is
not held, the frame is counted, and with it the period is complete. -/
def WatchdogDue (b : Board S) (frames : UInt32) (ops : List Operation) (p : Processor) : Prop :=
  (b.after ops).isHeld p = false ∧ Watchdog.covered (b.watchdogHistory p ops) = false ∧
    Watchdog.countedFrames (b.watchdogHistory p ops) + 1 = frames.toNat

instance (b : Board S) (frames : UInt32) (ops : List Operation) (p : Processor) :
    Decidable (b.WatchdogDue frames ops p) := inferInstanceAs (Decidable (_ ∧ _ ∧ _))

theorem expires_iff_due {b : Board S} {frames : UInt32} {ops : List Operation} {p : Processor}
    (h : (b.after ops).WatchdogsFollow frames fun p => b.watchdogHistory p ops) (hp : p ≠ .sub) :
    (b.after ops).expires p = true ↔ b.WatchdogDue frames ops p := by
  obtain ⟨w, hw⟩ : ∃ w, (b.after ops).watchdog? p = some w := by
    cases p with
    | main | sound => exact ⟨_, rfl⟩
    | sub => exact absurd rfl hp
  unfold expires WatchdogDue
  rw [hw, Bool.and_eq_true, Bool.not_eq_true', Option.any_some, (h p w hw).expires_iff]

/-- **When a watchdog resets the machine.** On a board that was switched on with a period of at least one
frame, and after whatever was done to it since, short of restoring a saved state:

- the next end of a frame tells of a reset by the watchdog of main exactly if that frame is the last of
  the period of main's watchdog, whatever that of sound does;
- it tells of a reset by the watchdog of sound exactly if that frame is the last of the period of sound's
  watchdog and not of main's; it never names sub, which has no watchdog;
- if it tells of none, the watchdogs tick and that is all; if it tells of one, the machine is reset once,
  and one reset is counted;
- the count of resets is the number of ends of frames that told of one. -/
theorem watchdog_resets_follow_history {layout : IoLayout} {inputs : Inputs} {frames : UInt32} {sound : S}
    {b : Board S} (h : powerOn layout inputs frames sound = .ok b) (hframes : frames ≠ 0)
    (ops : List Operation) :
    ((b.after ops).frameSync.1.watchdogReset = some .main ↔ b.WatchdogDue frames ops .main) ∧
      ((b.after ops).frameSync.1.watchdogReset = some .sound ↔
        b.WatchdogDue frames ops .sound ∧ ¬ b.WatchdogDue frames ops .main) ∧
      (b.after ops).frameSync.1.watchdogReset ≠ some .sub ∧
      ((b.after ops).frameSync.1.watchdogReset = none →
        (b.after ops).frameSync.2 = (b.after ops).vblank.ticked) ∧
      (∀ p, (b.after ops).frameSync.1.watchdogReset = some p →
        (b.after ops).frameSync.2 = ((b.after ops).vblank.ticked.countReset p).machineReset) ∧
      (b.after ops).diagnostics.watchdogResets =
        UInt64.ofNat ((b.answers ops).countP Answer.tellsReset) := by
  rw [powerOn_eq] at h
  cases h
  have hfollow := (watchdogsFollow_stock layout inputs sound hframes).after ops
  simp only [List.nil_append] at hfollow
  have hmain := expires_iff_due hfollow (p := .main) nofun
  have hsound := expires_iff_due hfollow (p := .sound) nofun
  have hcount := (stock layout inputs frames sound).watchdogResets_after ops
  generalize hc : (stock layout inputs frames sound).after ops = c at *
  rw [← hmain, ← hsound, frameSync_watchdogReset, frameSync_eq, expired_eq]
  refine ⟨?_, ?_, ?_, ?_, ?_, hcount.trans (UInt64.zero_add _)⟩ <;>
    cases c.expires .main <;> cases c.expires .sound <;> simp

/-- Sound is released and two frames end. If main services its watchdog in both, that of sound resets the
machine; if not, both are due and main is named. Holding sound and releasing it again between the frames
begins its period anew, and it is not named. -/
theorem watchdog_resets_follow_history_both_due :
    let layout : IoLayout := ⟨⟨⟨.playerCoin, .part56⟩, ⟨.dipSwitch, .part58⟩⟩, true⟩
    let hold : Operation := .write .main 0x8800 0
    let release : Operation := .write .main 0x8000 0
    let service : Operation := .read .main 0x7FFF
    ∃ b, powerOn layout (.atRest 0xFF 0xF8) 2 SoundRegisters.silent = .ok b ∧ (2 : UInt32) ≠ 0 ∧
      (b.after [release, service, .frameSync, service]).frameSync.1.watchdogReset = some .sound ∧
      (b.after [release, .frameSync]).frameSync.1.watchdogReset = some .main ∧
      b.WatchdogDue 2 [release, .frameSync] .sound ∧
      (b.after [release, service, .frameSync, hold, release]).frameSync.1.watchdogReset ≠ some .sound ∧
      (b.after [release, .frameSync, .frameSync]).diagnostics.watchdogResets = 1 := by
  intro layout hold release service
  have hb := powerOn_eq layout (.atRest 0xFF 0xF8) 2 SoundRegisters.silent
  have hlaw (ops : List Operation) := watchdog_resets_follow_history hb (by decide) ops
  refine ⟨_, hb, by decide, ?_, ?_, by decide +kernel, ?_, ?_⟩
  · rw [(hlaw _).2.1]
    decide +kernel
  · rw [(hlaw _).1]
    decide +kernel
  · rw [ne_eq, (hlaw _).2.1]
    decide +kernel
  · rw [(hlaw _).2.2.2.2.2]
    decide +kernel

end Chip

end Board

end Arcade
