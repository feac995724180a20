import Arcade.Config
import Arcade.Proofs.Config.Partial
import Arcade.Proofs.Json.Printed

/-!
# `Arcade.Proofs.Config` — configurations come back from their files

A configuration that is written to a file is read back as it was, whatever it says: the name of its revision
may be any text at all, with quotes and control characters, and what it leaves to the revision is written
`null` and read as such. What is wrong with it is therefore found when it is checked, and not before.

## Contents
- `ChipSpec.prints`, `IoLayout.prints`, `Config.prints`: how chips, layouts and configurations are printed.
- `ChipSpec.ofForm?_form`, `IoLayout.ofForm?_form`, `Config.ofForm?_form`: what is printed means what it says.
- `Config.check_eq_ok`, `Config.check_eq_error_iff`: what makes a configuration valid, and what is wrong with it.
- `Config.ofText_render`.
-/

namespace Arcade

open Json (Form Prints)

/-! ## Chips -/

/-- A chip as it is printed. -/
def ChipSpec.form (s : ChipSpec) : Form :=
  .ofMembers [("kind", .ofString s.kind.tag), ("part", .ofString s.part.label)]

theorem ChipSpec.prints (s : ChipSpec) : Prints s.toJson s.form :=
  .object (.cons ⟨rfl, Json.prints_string _⟩ (.cons ⟨rfl, Json.prints_string _⟩ .nil))

/-- **A printed chip means the chip.** -/
theorem ChipSpec.ofForm?_form (s : ChipSpec) : ofForm? s.form = some s := by
  have hkind : ChipKind.byTag.lookup s.kind.tag = some s.kind := by cases s.kind <;> decide
  have hpart : ChipPart.byLabel.lookup s.part.label = some s.part := by cases s.part <;> decide
  unfold ofForm? form
  rw [Json.record?_ofMembers]
  simp [Form.takeMembers, Draft.meanings, Json.choice?_ofString, hkind, hpart]

/-- A layout as it is printed. -/
def IoLayout.form (l : IoLayout) : Form :=
  .ofMembers [("slots", .array [l.slots.fst.form, l.slots.snd.form]), ("lamps", .bool l.lamps)]

theorem IoLayout.prints (l : IoLayout) : Prints l.toJson l.form := by
  have hslots : Prints (.array [l.slots.fst.toJson, l.slots.snd.toJson])
      (.array [l.slots.fst.form, l.slots.snd.form]) :=
    .array (.cons l.slots.fst.prints (.cons l.slots.snd.prints .nil))
  exact .object (.cons ⟨rfl, hslots⟩ (.cons ⟨rfl, Json.prints_bool l.lamps⟩ .nil))

/-- **A printed layout means the layout.** -/
theorem IoLayout.ofForm?_form (l : IoLayout) : ofForm? l.form = some l := by
  unfold ofForm? form
  rw [Json.record?_ofMembers]
  simp [Form.takeMembers, Draft.meanings, Form.exactly?, Form.bool?, ChipSpec.ofForm?_form]

namespace Config

/-! ## Configurations -/

/-- Something that may be absent, as it is printed. -/
def formOrNull {α : Type} (form : α → Form) : Option α → Form
  | none => .null
  | some a => form a

/-- What a field is set to, as it is printed. -/
def Setting.form : Setting → Form
  | .revision name => .ofString name
  | .sliceCycles cycles => .ofNat cycles.toNat
  | .watchdogFrames frames => .ofNat frames.toNat
  | .dipA bank => formOrNull (fun b => .ofNat b.toNat) bank
  | .dipB bank => formOrNull (fun b => .ofNat b.toNat) bank
  | .layout chips => formOrNull IoLayout.form chips

/-- A configuration as it is printed: every field in order. -/
def members (c : Config) : List (String × Form) := Key.all.map fun k => (k.name, (c.setting k).form)

theorem prints_orNull {α : Type} {write : α → Json} {form : α → Form} (h : ∀ a, Prints (write a) (form a))
    (o : Option α) : Prints (orNull write o) (formOrNull form o) := by
  cases o with
  | none => exact Json.prints_null
  | some a => exact h a

/-- **A configuration is printed field by field.** -/
theorem prints (c : Config) : Prints c.toJson (.ofMembers c.members) := by
  have hbyte (b : UInt8) : Prints (.nat b.toNat) (.ofNat b.toNat) := Json.prints_nat b.toNat
  refine .object ?_
  refine .cons ⟨rfl, Json.prints_string c.revision⟩ ?_
  refine .cons ⟨rfl, Json.prints_nat c.sliceCycles.toNat⟩ ?_
  refine .cons ⟨rfl, Json.prints_nat c.watchdogFrames.toNat⟩ ?_
  refine .cons ⟨rfl, prints_orNull hbyte c.dipA⟩ ?_
  refine .cons ⟨rfl, prints_orNull hbyte c.dipB⟩ ?_
  exact .cons ⟨rfl, prints_orNull IoLayout.prints c.layout⟩ .nil

theorem word?_ofNat (n : UInt32) : word? (.ofNat n.toNat) = some n := by
  unfold word?
  rw [Json.below?_ofNat n.toNat_lt, Option.map_some, UInt32.ofNat_toNat]

theorem byte?_ofNat (n : UInt8) : byte? (.ofNat n.toNat) = some n := by
  unfold byte?
  rw [Json.below?_ofNat n.toNat_lt, Option.map_some, UInt8.ofNat_toNat]

/-- Something that may be absent means what it is, if it is never printed `null` when it is there. -/
theorem nullable_formOrNull {α : Type} {means : Form → Option α} {form : α → Form}
    (h : ∀ a, means (form a) = some a) (hform : ∀ a, (form a).kind ≠ .null) (o : Option α) :
    (formOrNull form o).nullable means = some o := by
  cases o with
  | none => rfl
  | some a =>
    show (form a).nullable means = some (some a)
    have hmeans := h a
    cases hv : form a with
    | null => exact absurd (congrArg Form.kind hv) (hform a)
    | _ =>
      rw [hv] at hmeans
      exact congrArg (Option.map some) hmeans

/-- **What a field is set to is printed so that it means that.** -/
theorem setting?_form (c : Config) (k : Key) : k.setting? (c.setting k).form = some (c.setting k) := by
  have hdip (o : Option UInt8) : (formOrNull (fun b => .ofNat b.toNat) o).nullable byte? = some o :=
    nullable_formOrNull byte?_ofNat (fun _ => Json.Kind.noConfusion) o
  have hlayout : (formOrNull IoLayout.form c.layout).nullable IoLayout.ofForm? = some c.layout :=
    nullable_formOrNull IoLayout.ofForm?_form (fun _ => Json.Kind.noConfusion) c.layout
  cases k with
  | revision => exact congrArg (Option.map Setting.revision) (Json.string?_ofString c.revision)
  | sliceCycles => exact congrArg (Option.map Setting.sliceCycles) (word?_ofNat c.sliceCycles)
  | watchdogFrames => exact congrArg (Option.map Setting.watchdogFrames) (word?_ofNat c.watchdogFrames)
  | dipA => exact congrArg (Option.map Setting.dipA) (hdip c.dipA)
  | dipB => exact congrArg (Option.map Setting.dipB) (hdip c.dipB)
  | layout => exact congrArg (Option.map Setting.layout) hlayout

/-- A printed configuration says every field once. -/
theorem readings_members (c : Config) : readings c.members = Key.all.map fun k => (k, some (c.setting k)) := by
  have hread (k : Key) : (Key.ofName? k.name).map (fun k' => (k', k'.setting? (c.setting k).form)) =
      some (k, some (c.setting k)) := by
    have hname : Key.ofName? k.name = some k := by cases k <;> rfl
    rw [hname, Option.map_some, setting?_form]
  unfold readings members
  rw [List.filterMap_map]
  exact (congrArg (fun f => Key.all.filterMap f) (funext hread)).trans (congrFun List.filterMap_eq_map' Key.all)

/-- **A printed configuration means the configuration.** -/
theorem ofForm?_members (c : Config) : ofForm? (.ofMembers c.members) = some c := by
  have hsaid := c.readings_members
  have hkeys : (readings c.members).map Prod.fst = Key.all := by
    rw [hsaid]
    rfl
  have hnodup : ((readings c.members).map Prod.fst).Nodup := by
    rw [hkeys]
    decide
  have hvalues : ∀ r ∈ readings c.members, r.2 ≠ none := by
    rw [hsaid]
    intro r hr
    obtain ⟨k, -, rfl⟩ := List.mem_map.mp hr
    exact Option.some_ne_none _
  obtain ⟨c', hc', hdefault⟩ := ofForm?_eq_some (Json.named?_printed c.members) hnodup hvalues
  have hself : DefaultExcept (readings c.members) c := by
    refine ⟨fun k s hmem => ?_, fun k hk => ?_⟩
    · rw [hsaid] at hmem
      obtain ⟨_, -, heq⟩ := List.mem_map.mp hmem
      cases heq
      rfl
    · rw [hkeys] at hk
      exact absurd (by cases k <;> decide) hk
  obtain rfl := hself.unique hdefault (.refl _) hvalues
  exact hc'

/-! ## Checks -/

/-- What makes a configuration valid. -/
theorem check_eq_ok {config : Config} {r : Revision} :
    config.check = .ok r ↔
      config.sliceCycles ≠ 0 ∧ config.watchdogFrames ≠ 0 ∧ Revision.find? config.revision = some r := by
  unfold check
  by_cases hslice : config.sliceCycles = 0
  · rw [if_pos hslice]
    exact ⟨nofun, fun h => absurd hslice h.1⟩
  by_cases hwatchdog : config.watchdogFrames = 0
  · rw [if_neg hslice, if_pos hwatchdog]
    exact ⟨nofun, fun h => absurd hwatchdog h.2.1⟩
  rw [if_neg hslice, if_neg hwatchdog]
  cases Revision.find? config.revision with
  | none => exact ⟨nofun, fun h => nomatch h.2.2⟩
  | some found =>
    constructor
    · intro h
      cases h
      exact ⟨hslice, hwatchdog, rfl⟩
    · rintro ⟨-, -, h⟩
      cases h
      rfl

/-- **What is wrong with a configuration**: first turns of no length, then watchdogs without patience, then a
revision that is not known. -/
theorem check_eq_error_iff (c : Config) (problem : ConfigProblem) :
    c.check = .error problem ↔
      (c.sliceCycles = 0 ∧ problem = .zeroSlice) ∨
        (c.sliceCycles ≠ 0 ∧ c.watchdogFrames = 0 ∧ problem = .zeroWatchdog) ∨
          c.sliceCycles ≠ 0 ∧ c.watchdogFrames ≠ 0 ∧ Revision.find? c.revision = none ∧
            problem = .unknownRevision c.revision := by
  unfold check
  by_cases hslice : c.sliceCycles = 0
  · rw [if_pos hslice]
    simp [hslice, eq_comm]
  · by_cases hwatchdog : c.watchdogFrames = 0
    · rw [if_neg hslice, if_pos hwatchdog]
      simp [hslice, hwatchdog, eq_comm]
    · rw [if_neg hslice, if_neg hwatchdog]
      cases hrevision : Revision.find? c.revision with
      | none => simp [hslice, hwatchdog, eq_comm]
      | some r => simp [hslice, hwatchdog]

/-! ## Files -/

/-- The file of a configuration is read as the configuration, and then checked. -/
theorem ofText_render_eq (c : Config) : ofText c.render = c.check.map fun _ => c :=
  ofText_of_some c.prints.writes c.ofForm?_members

/-- **A configuration comes back from its file, or else what is wrong with it.** Reading the text of any
configuration gives the configuration if there is a machine for it, and otherwise the problem that checking it
finds: turns of no length before watchdogs without patience, and these before a revision that is not known,
which is reported by its name as it was. The text is never at fault. -/
theorem ofText_render (c : Config) :
    ofText c.render = c.check.map (fun _ => c) ∧
      (ofText c.render = .error .zeroSlice ↔ c.sliceCycles = 0) ∧
      (ofText c.render = .error .zeroWatchdog ↔ c.sliceCycles ≠ 0 ∧ c.watchdogFrames = 0) ∧
      (∀ name, ofText c.render = .error (.unknownRevision name) ↔
        c.sliceCycles ≠ 0 ∧ c.watchdogFrames ≠ 0 ∧ Revision.find? c.revision = none ∧ name = c.revision) ∧
      (ofText c.render = .ok c ↔
        c.sliceCycles ≠ 0 ∧ c.watchdogFrames ≠ 0 ∧ ∃ r, Revision.find? c.revision = some r) ∧
      ∀ fault, ofText c.render ≠ .error (.unreadable fault) := by
  have hfile := c.ofText_render_eq
  have herror (problem : ConfigProblem) : ofText c.render = .error problem ↔ c.check = .error problem := by
    rw [hfile]
    cases c.check <;> simp [Except.map]
  refine ⟨hfile, ?_, ?_, ?_, ?_, ?_⟩
  · rw [herror, check_eq_error_iff]
    simp
  · rw [herror, check_eq_error_iff]
    simp
  · intro name
    rw [herror, check_eq_error_iff]
    simp
  · have hok : ofText c.render = .ok c ↔ ∃ r, c.check = .ok r := by
      rw [hfile]
      cases c.check <;> simp [Except.map]
    simp only [hok, check_eq_ok, exists_and_left]
  · intro fault
    rw [ne_eq, herror, check_eq_error_iff]
    simp

end Config

end Arcade
