import Arcade.Config
import Arcade.Proofs.Json.Members

/-!
# `Arcade.Proofs.Config.Partial` — files that say something about a configuration

A file may leave out any field, have its members in any order, with any blanks, and hold members that have nothing
to do with a configuration, whatever their values are. What it says about the fields is all that matters: what a
value means for its field, in whatever way the value is written. A field that is there twice, or with a value that
means nothing for it, makes the file unreadable.

## Contents
- `ChipSpec.ofForm?`, `IoLayout.ofForm?`: what values mean for chips and layouts, and that readers follow it.
- `Config.Key`, `Config.Setting`, `Key.setting?`: fields, and what values mean for them.
- `Config.readings`: what members say. `Config.DefaultExcept`: the defaults with some fields replaced.
- `Config.Draft.takeReadings`, `Config.follows_reader`: members are taken for what they say.
- `Config.ofText_members`.
-/

namespace Arcade

open Json (Form Follows Gives Slot Piece)

/-! ## Chips -/

/-- The fields of a chip, and what values mean for them. -/
def ChipSpec.Draft.meanings : List (Slot ChipSpec.Draft) :=
  [ { name := "kind"
      present := fun d => d.kind.isSome
      take := fun d v => do
        let k ← v.choice? ChipKind.byTag
        pure { d with kind := some k } },
    { name := "part"
      present := fun d => d.part.isSome
      take := fun d v => do
        let p ← v.choice? ChipPart.byLabel
        pure { d with part := some p } } ]

/-- The chip that a value means: both fields must be there. -/
def ChipSpec.ofForm? (v : Form) : Option ChipSpec := do
  match ← v.record? Draft.meanings ⟨none, none⟩ with
  | ⟨some kind, some part⟩ => pure { kind, part }
  | _ => none

theorem ChipSpec.follows : Follows ChipSpec.reader ChipSpec.ofForm? := by
  have hkind (d : Draft) := (Json.follows_choice ChipKind.byTag).bindPure fun k => { d with kind := some k }
  have hpart (d : Draft) := (Json.follows_choice ChipPart.byLabel).bindPure fun p => { d with part := some p }
  refine Follows.bind (Json.follows_record (.cons ⟨rfl, rfl, hkind⟩ (.cons ⟨rfl, rfl, hpart⟩ .nil)) _) ?_
  rintro ⟨_ | kind, _ | part⟩ ws rest hrest
  · exact ⟨_, rfl⟩
  · exact ⟨_, rfl⟩
  · exact ⟨_, rfl⟩
  · exact ⟨rest, hrest, rfl⟩

/-- The fields of a layout, and what values mean for them. -/
def IoLayout.Draft.meanings : List (Slot IoLayout.Draft) :=
  [ { name := "slots"
      present := fun d => d.slots.isSome
      take := fun d v => do
        match ← v.exactly? 2 ChipSpec.ofForm? with
        | [first, second] => pure { d with slots := some ⟨first, second⟩ }
        | _ => none },
    { name := "lamps"
      present := fun d => d.lamps.isSome
      take := fun d v => do
        let b ← v.bool?
        pure { d with lamps := some b } } ]

/-- The layout that a value means: both fields must be there, and two chips. -/
def IoLayout.ofForm? (v : Form) : Option IoLayout := do
  match ← v.record? Draft.meanings ⟨none, none⟩ with
  | ⟨some slots, some lamps⟩ => pure { slots, lamps }
  | _ => none

theorem IoLayout.follows : Follows IoLayout.reader IoLayout.ofForm? := by
  have hlamps (d : Draft) := Json.follows_boolean.bindPure fun b => { d with lamps := some b }
  refine Follows.bind
    (Json.follows_record (.cons ⟨rfl, rfl, fun d => ?_⟩ (.cons ⟨rfl, rfl, hlamps⟩ .nil)) _) ?_
  · refine Follows.bind (ChipSpec.follows.exactly 2) ?_
    rintro (_ | ⟨first, _ | ⟨second, _ | ⟨third, chips⟩⟩⟩) ws rest hrest
    · exact ⟨_, rfl⟩
    · exact ⟨_, rfl⟩
    · exact ⟨rest, hrest, rfl⟩
    · exact ⟨_, rfl⟩
  · rintro ⟨_ | slots, _ | lamps⟩ ws rest hrest
    · exact ⟨_, rfl⟩
    · exact ⟨_, rfl⟩
    · exact ⟨_, rfl⟩
    · exact ⟨rest, hrest, rfl⟩

namespace Config

/-! ## What a file says -/

/-- The fields of a configuration. -/
inductive Key
  | revision
  | sliceCycles
  | watchdogFrames
  | dipA
  | dipB
  | layout
  deriving DecidableEq

/-- The name of a field in a file. -/
def Key.name : Key → String
  | .revision => "revision"
  | .sliceCycles => "slice_cycles"
  | .watchdogFrames => "watchdog_frames"
  | .dipA => "dsw_a"
  | .dipB => "dsw_b"
  | .layout => "io_layout"

/-- All fields in order. -/
def Key.all : List Key := [.revision, .sliceCycles, .watchdogFrames, .dipA, .dipB, .layout]

/-- The field of a name. -/
def Key.ofName? (name : String) : Option Key := all.find? fun k => k.name = name

/-- What a field is set to. -/
inductive Setting
  | revision (name : String)
  | sliceCycles (cycles : UInt32)
  | watchdogFrames (frames : UInt32)
  /-- A switch bank, or nothing if it is left as set at the factory. -/
  | dipA (bank : Option UInt8)
  | dipB (bank : Option UInt8)
  /-- The fitted chips, or nothing if they are those of the revision. -/
  | layout (chips : Option IoLayout)

/-- The field that is set. -/
def Setting.key : Setting → Key
  | .revision _ => .revision
  | .sliceCycles _ => .sliceCycles
  | .watchdogFrames _ => .watchdogFrames
  | .dipA _ => .dipA
  | .dipB _ => .dipB
  | .layout _ => .layout

/-- What a field of a configuration is set to. -/
def setting (c : Config) : Key → Setting
  | .revision => .revision c.revision
  | .sliceCycles => .sliceCycles c.sliceCycles
  | .watchdogFrames => .watchdogFrames c.watchdogFrames
  | .dipA => .dipA c.dipA
  | .dipB => .dipB c.dipB
  | .layout => .layout c.layout

/-- Configurations with the same settings are the same. -/
theorem ext_setting {c d : Config} (h : ∀ k, c.setting k = d.setting k) : c = d := by
  obtain ⟨revision, slice, watchdog, a, b, layout⟩ := c
  obtain ⟨revision', slice', watchdog', a', b', layout'⟩ := d
  obtain rfl := Setting.revision.inj (h .revision)
  obtain rfl := Setting.sliceCycles.inj (h .sliceCycles)
  obtain rfl := Setting.watchdogFrames.inj (h .watchdogFrames)
  obtain rfl := Setting.dipA.inj (h .dipA)
  obtain rfl := Setting.dipB.inj (h .dipB)
  obtain rfl := Setting.layout.inj (h .layout)
  rfl

/-- An integer of 32 bits. -/
def word? (v : Form) : Option UInt32 := (v.below? UInt32.size).map UInt32.ofNat

/-- An integer of 8 bits. -/
def byte? (v : Form) : Option UInt8 := (v.below? UInt8.size).map UInt8.ofNat

/-- What a value sets a field to, if it is one for that field. -/
def Key.setting? (v : Form) : Key → Option Setting
  | .revision => v.string?.map .revision
  | .sliceCycles => (word? v).map .sliceCycles
  | .watchdogFrames => (word? v).map .watchdogFrames
  | .dipA => (v.nullable byte?).map .dipA
  | .dipB => (v.nullable byte?).map .dipB
  | .layout => (v.nullable IoLayout.ofForm?).map .layout

/-- **What the members of an object say about the fields**, in the order in which they stand: each field with what
it is set to, or with nothing if the value is not one for it. Members of other names say nothing. -/
def readings (members : List (String × Form)) : List (Key × Option Setting) :=
  members.filterMap fun (name, v) => (Key.ofName? name).map fun k => (k, k.setting? v)

/-- **The configuration has the default in every field** but those that something is said about, which are set to
that. -/
structure DefaultExcept (said : List (Key × Option Setting)) (c : Config) : Prop where
  replaced : ∀ k s, (k, some s) ∈ said → c.setting k = s
  kept : ∀ k, k ∉ said.map Prod.fst → c.setting k = standard.setting k

/-- There is only one such configuration, in whatever order things are said. -/
theorem DefaultExcept.unique {said said' : List (Key × Option Setting)} {c c' : Config} (h : DefaultExcept said c)
    (h' : DefaultExcept said' c') (hperm : said'.Perm said) (hvalues : ∀ r ∈ said, r.2 ≠ none) : c' = c := by
  apply ext_setting
  intro k
  by_cases hk : k ∈ said.map Prod.fst
  · obtain ⟨⟨_, value⟩, hmem, rfl⟩ := List.mem_map.mp hk
    obtain ⟨s, rfl⟩ := Option.ne_none_iff_exists'.mp (hvalues _ hmem)
    rw [h.replaced _ s hmem, h'.replaced _ s (hperm.mem_iff.mpr hmem)]
  · rw [h.kept k hk, h'.kept k fun hk' => hk ((hperm.map Prod.fst).mem_iff.mp hk')]

/-! ## What is read -/

namespace Draft

/-- What a field that has been read is set to. -/
def setting? (d : Draft) : Key → Option Setting
  | .revision => d.revision.map .revision
  | .sliceCycles => d.sliceCycles.map .sliceCycles
  | .watchdogFrames => d.watchdogFrames.map .watchdogFrames
  | .dipA => d.dipA.map .dipA
  | .dipB => d.dipB.map .dipB
  | .layout => d.layout.map .layout

/-- A field is read for what it is set to. -/
def take (d : Draft) : Setting → Draft
  | .revision name => { d with revision := some name }
  | .sliceCycles cycles => { d with sliceCycles := some cycles }
  | .watchdogFrames frames => { d with watchdogFrames := some frames }
  | .dipA bank => { d with dipA := some bank }
  | .dipB bank => { d with dipB := some bank }
  | .layout chips => { d with layout := some chips }

theorem setting?_empty (k : Key) : empty.setting? k = none := by
  cases k <;> rfl

theorem setting?_take (d : Draft) (s : Setting) (k : Key) :
    (d.take s).setting? k = if k = s.key then some s else d.setting? k := by
  cases s <;> cases k <;> rfl

/-- A field that was not read has the default. -/
theorem setting_complete (d : Draft) (k : Key) : d.complete.setting k = (d.setting? k).getD (standard.setting k) := by
  obtain ⟨revision, slice, watchdog, a, b, layout⟩ := d
  cases k with
  | revision => cases revision <;> rfl
  | sliceCycles => cases slice <;> rfl
  | watchdogFrames => cases watchdog <;> rfl
  | dipA => cases a <;> rfl
  | dipB => cases b <;> rfl
  | layout => cases layout <;> rfl

/-- A field of a configuration, and what values mean for it. -/
def slot (k : Key) : Slot Draft where
  name := k.name
  present := fun d => (d.setting? k).isSome
  take := fun d v => (k.setting? v).map d.take

/-- A field is read as its slot says, if its reader follows what values mean for it. -/
theorem field_fits {α : Type} {get : Draft → Option α} {put : Draft → α → Draft} {read : Json.Reader α}
    {means : Form → Option α} (k : Key) (make : α → Setting) (hread : Follows read means)
    (hmeans : ∀ v, k.setting? v = (means v).map make) (hget : ∀ d, d.setting? k = (get d).map make)
    (hput : ∀ d a, d.take (make a) = put d a) : (field k.name get put read).Fits (slot k) where
  name := rfl
  present := by
    funext d
    show (get d).isSome = (d.setting? k).isSome
    rw [hget, Option.isSome_map]
  read := by
    intro d
    have htake : (slot k).take d = fun v => (means v).map (put d) := by
      funext v
      show (k.setting? v).map d.take = _
      rw [hmeans, Option.map_map]
      exact congrArg (fun f => (means v).map f) (funext (hput d))
    rw [htake]
    exact hread.map (put d)

theorem fields_fit : List.Forall₂ Json.Field.Fits fields (Key.all.map slot) := by
  have hword : Follows word word? := (Json.follows_naturalBelow (by decide)).map UInt32.ofNat
  have hbyte : Follows byte byte? := (Json.follows_naturalBelow (by decide)).map UInt8.ofNat
  refine .cons ?_ (.cons ?_ (.cons ?_ (.cons ?_ (.cons ?_ (.cons ?_ .nil)))))
  · exact field_fits .revision .revision Json.follows_text (fun _ => rfl) (fun _ => rfl) fun _ _ => rfl
  · exact field_fits .sliceCycles .sliceCycles hword (fun _ => rfl) (fun _ => rfl) fun _ _ => rfl
  · exact field_fits .watchdogFrames .watchdogFrames hword (fun _ => rfl) (fun _ => rfl) fun _ _ => rfl
  · exact field_fits .dipA .dipA hbyte.optional (fun _ => rfl) (fun _ => rfl) fun _ _ => rfl
  · exact field_fits .dipB .dipB hbyte.optional (fun _ => rfl) (fun _ => rfl) fun _ _ => rfl
  · exact field_fits .layout .layout IoLayout.follows.optional (fun _ => rfl) (fun _ => rfl) fun _ _ => rfl

/-- Takes what is said about the fields, each field once. -/
def takeReadings : Draft → List (Key × Option Setting) → Option Draft
  | d, [] => some d
  | d, (k, value) :: said =>
    if (d.setting? k).isSome then none else value.bind fun s => takeReadings (d.take s) said

/-- Members are taken for what they say. -/
theorem takeMembers_eq (d : Draft) (members : List (String × Form)) :
    Form.takeMembers (Key.all.map slot) d members = d.takeReadings (readings members) := by
  induction members generalizing d with
  | nil => rfl
  | cons m members ih =>
    obtain ⟨name, v⟩ := m
    have hfind : (Key.all.map slot).find? (fun slot => slot.name = name) = (Key.ofName? name).map slot :=
      List.find?_map
    rw [Form.takeMembers, hfind]
    cases hkey : Key.ofName? name with
    | none =>
      have hsaid : readings ((name, v) :: members) = readings members :=
        List.filterMap_cons_none (congrArg (Option.map _) hkey)
      rw [hsaid]
      exact ih d
    | some k =>
      have hsaid : readings ((name, v) :: members) = (k, k.setting? v) :: readings members :=
        List.filterMap_cons_some (congrArg (Option.map _) hkey)
      rw [hsaid, takeReadings]
      show (if (d.setting? k).isSome then none else ((k.setting? v).map d.take).bind _) = _
      rw [Option.bind_map]
      simp only [ih, Function.comp_def]

/-- **Fields that are said once, and with values that are for them, are all taken**: then they are set to that, and
the others are as before. -/
theorem takeReadings_eq_some (d : Draft) (said : List (Key × Option Setting))
    (hkeys : ∀ r ∈ said, ∀ s, r.2 = some s → s.key = r.1) (hnodup : (said.map Prod.fst).Nodup)
    (hvalues : ∀ r ∈ said, r.2 ≠ none) (hnew : ∀ r ∈ said, d.setting? r.1 = none) :
    ∃ d', d.takeReadings said = some d' ∧ (∀ k s, (k, some s) ∈ said → d'.setting? k = some s) ∧
      ∀ k, k ∉ said.map Prod.fst → d'.setting? k = d.setting? k := by
  induction said generalizing d with
  | nil => exact ⟨d, rfl, nofun, fun _ _ => rfl⟩
  | cons r said ih =>
    obtain ⟨k, value⟩ := r
    rw [List.map_cons, List.nodup_cons] at hnodup
    obtain ⟨s, rfl⟩ := Option.ne_none_iff_exists'.mp (hvalues (k, value) List.mem_cons_self)
    obtain rfl : s.key = k := hkeys _ List.mem_cons_self s rfl
    have hnone : d.setting? s.key = none := hnew (s.key, some s) List.mem_cons_self
    -- what is said later is about other fields, so that taking this one leaves them new
    have hother (k : Key) (hk : k ∈ said.map Prod.fst) : k ≠ s.key := fun h => hnodup.1 (h ▸ hk)
    have hstill : ∀ r ∈ said, (d.take s).setting? r.1 = none := by
      intro r hr
      rw [setting?_take, if_neg (hother r.1 (List.mem_map_of_mem hr))]
      exact hnew r (List.mem_cons_of_mem _ hr)
    obtain ⟨d', htake, hset, hkept⟩ := ih (d.take s) (fun r hr => hkeys r (List.mem_cons_of_mem _ hr)) hnodup.2
      (fun r hr => hvalues r (List.mem_cons_of_mem _ hr)) hstill
    refine ⟨d', ?_, ?_, ?_⟩
    · rw [takeReadings, hnone]
      exact htake
    · intro k' s' hmem
      rcases List.mem_cons.mp hmem with heq | hmem
      · cases heq
        rw [hkept _ hnodup.1, setting?_take, if_pos rfl]
      · exact hset k' s' hmem
    · intro k' hk'
      rw [List.map_cons, List.mem_cons, not_or] at hk'
      rw [hkept k' hk'.2, setting?_take, if_neg hk'.1]

/-- A field that has been read before, or is said twice, or with a value that is not for it, is refused. -/
theorem takeReadings_eq_none (d : Draft) (said : List (Key × Option Setting))
    (hkeys : ∀ r ∈ said, ∀ s, r.2 = some s → s.key = r.1)
    (h : (∃ r ∈ said, d.setting? r.1 ≠ none) ∨ ¬ (said.map Prod.fst).Nodup ∨ ∃ r ∈ said, r.2 = none) :
    d.takeReadings said = none := by
  induction said generalizing d with
  | nil => simp at h
  | cons r said ih =>
    obtain ⟨k, value⟩ := r
    rw [takeReadings]
    cases hold : d.setting? k with
    | some s => rfl
    | none =>
      cases value with
      | none => rfl
      | some s =>
        obtain rfl : s.key = k := hkeys _ List.mem_cons_self s rfl
        refine ih (d.take s) (fun r hr => hkeys r (List.mem_cons_of_mem _ hr)) ?_
        rcases h with ⟨r, hr, hread⟩ | hnodup | ⟨r, hr, hnone⟩
        · rcases List.mem_cons.mp hr with rfl | hr
          · exact absurd hold hread
          · refine .inl ⟨r, hr, ?_⟩
            rw [setting?_take]
            split
            · exact Option.some_ne_none s
            · exact hread
        · rw [List.map_cons, List.nodup_cons, not_and_or, not_not] at hnodup
          rcases hnodup with hmem | hnodup
          · -- the field is said again, and by then it has been read
            obtain ⟨r, hr, hkey⟩ := List.mem_map.mp hmem
            refine .inl ⟨r, hr, ?_⟩
            rw [setting?_take, if_pos hkey]
            exact Option.some_ne_none s
          · exact .inr (.inl hnodup)
        · rcases List.mem_cons.mp hr with rfl | hr
          · cases hnone
          · exact .inr (.inr ⟨r, hr, hnone⟩)

end Draft

/-- What a value sets a field to is a setting of that field. -/
theorem Key.key_setting? {k : Key} {v : Form} {s : Setting} (h : k.setting? v = some s) : s.key = k := by
  cases k <;> obtain ⟨_, -, rfl⟩ := Option.map_eq_some_iff.mp h <;> rfl

theorem key_readings {members : List (String × Form)} :
    ∀ r ∈ readings members, ∀ s, r.2 = some s → s.key = r.1 := by
  intro r hr s hs
  obtain ⟨⟨name, v⟩, -, hread⟩ := List.mem_filterMap.mp hr
  obtain ⟨k, -, rfl⟩ := Option.map_eq_some_iff.mp hread
  exact Key.key_setting? hs

/-! ## Files -/

/-- The configuration that a value means. -/
def ofForm? (v : Form) : Option Config := (v.record? (Key.all.map Draft.slot) .empty).map Draft.complete

theorem follows_reader : Follows reader ofForm? := (Json.follows_record Draft.fields_fit .empty).map Draft.complete

/-- A file is read for what it means, and then checked. -/
theorem ofText_of_some {text : String} {v : Form} (htext : Json.Writes text v) {c : Config}
    (hc : ofForm? v = some c) : ofText text = c.check.map fun _ => c := by
  unfold ofText
  rw [follows_reader.readWhole htext hc]
  dsimp only
  cases c.check <;> rfl

/-- The text is no file of a configuration. -/
def Unreadable (text : String) : Prop := ∃ fault, ofText text = .error (.unreadable fault)

/-- A file that means nothing cannot be read. -/
theorem unreadable_of_none {text : String} {v : Form} (htext : Json.Writes text v) (hv : ofForm? v = none) :
    Unreadable text := by
  obtain ⟨fault, hread⟩ := follows_reader.readWhole_none htext hv
  unfold Unreadable ofText
  rw [hread]
  exact ⟨fault, rfl⟩

variable {written : List (List Piece × Form)} {members : List (String × Form)}

/-- Members that say each field once, and with a value that is for it, mean the defaults but for what they say. -/
theorem ofForm?_eq_some (hnames : Form.named? written = some members)
    (hnodup : ((readings members).map Prod.fst).Nodup) (hvalues : ∀ r ∈ readings members, r.2 ≠ none) :
    ∃ c, ofForm? (.object written) = some c ∧ DefaultExcept (readings members) c := by
  obtain ⟨d, htake, hset, hkept⟩ := Draft.takeReadings_eq_some .empty (readings members) key_readings hnodup
    hvalues fun _ _ => Draft.setting?_empty _
  refine ⟨d.complete, ?_, ?_, ?_⟩
  · show ((Form.named? written).bind _).map _ = _
    rw [hnames, Option.bind_some, Draft.takeMembers_eq, htake]
    rfl
  · intro k s hmem
    rw [Draft.setting_complete, hset k s hmem]
    rfl
  · intro k hk
    rw [Draft.setting_complete, hkept k hk, Draft.setting?_empty]
    rfl

/-- Members that say a field twice, or with a value that is not for it, mean nothing. -/
theorem ofForm?_eq_none (hnames : Form.named? written = some members)
    (h : ¬ ((readings members).map Prod.fst).Nodup ∨ ∃ r ∈ readings members, r.2 = none) :
    ofForm? (.object written) = none := by
  show ((Form.named? written).bind _).map _ = _
  rw [hnames, Option.bind_some, Draft.takeMembers_eq, Draft.takeReadings_eq_none .empty _ key_readings (.inr h)]
  rfl

/-- **A file is read for what it says about the fields.** Take the text of any object, with its members in any order,
any blanks between its words, and any values for the members of other names. If it says each field once at most, and
with a value that is for it, the configuration is the default with just these fields replaced; it is given if there
is a machine for it, and otherwise what is wrong with it is. If it says a field twice, or with a value that is not
for it, it is unreadable. A file that says the same in another order, among whatever other members, is read as the
same. Only if the name of a member is no text is there nothing that the file says, and then it is unreadable. -/
theorem ofText_members {text : String} {written : List (List Piece × Form)}
    (htext : Json.Writes text (.object written)) :
    (∀ members, Form.named? written = some members →
      (((readings members).map Prod.fst).Nodup → (∀ r ∈ readings members, r.2 ≠ none) →
        ∃ c, DefaultExcept (readings members) c ∧ ofText text = c.check.map fun _ => c) ∧
      (¬ ((readings members).map Prod.fst).Nodup ∨ (∃ r ∈ readings members, r.2 = none) →
        Unreadable text) ∧
      ∀ text' written' members', Json.Writes text' (.object written') → Form.named? written' = some members' →
        (readings members').Perm (readings members) →
          ofText text' = ofText text ∨ Unreadable text' ∧ Unreadable text) ∧
    (Form.named? written = none → Unreadable text) := by
  refine ⟨fun members hnames => ⟨?_, ?_, ?_⟩, fun hnames => ?_⟩
  · intro hnodup hvalues
    obtain ⟨c, hc, hdefault⟩ := ofForm?_eq_some hnames hnodup hvalues
    exact ⟨c, hdefault, ofText_of_some htext hc⟩
  · intro h
    exact unreadable_of_none htext (ofForm?_eq_none hnames h)
  · intro text' written' members' htext' hnames' hperm
    have hnodup' := (hperm.map Prod.fst).nodup_iff
    by_cases hgood : ((readings members).map Prod.fst).Nodup ∧ ∀ r ∈ readings members, r.2 ≠ none
    · obtain ⟨hnodup, hvalues⟩ := hgood
      obtain ⟨c, hc, hdefault⟩ := ofForm?_eq_some hnames hnodup hvalues
      obtain ⟨c', hc', hdefault'⟩ :=
        ofForm?_eq_some hnames' (hnodup'.mpr hnodup) fun r hr => hvalues r (hperm.mem_iff.mp hr)
      obtain rfl := hdefault.unique hdefault' hperm hvalues
      left
      rw [ofText_of_some htext hc, ofText_of_some htext' hc']
    · have hbad : ¬ ((readings members).map Prod.fst).Nodup ∨ ∃ r ∈ readings members, r.2 = none := by
        rw [not_and_or] at hgood
        refine hgood.imp_right fun hvalues => ?_
        push Not at hvalues
        exact hvalues
      have hbad' : ¬ ((readings members').map Prod.fst).Nodup ∨ ∃ r ∈ readings members', r.2 = none := by
        refine hbad.imp (fun h h' => h (hnodup'.mp h')) ?_
        rintro ⟨r, hr, hnone⟩
        exact ⟨r, hperm.mem_iff.mpr hr, hnone⟩
      right
      exact ⟨unreadable_of_none htext' (ofForm?_eq_none hnames' hbad'),
        unreadable_of_none htext (ofForm?_eq_none hnames hbad)⟩
  · refine unreadable_of_none htext ?_
    show ((Form.named? written).bind _).map _ = _
    rw [hnames]
    rfl

/-- A switch bank is set, and a member that is no field holds a number beyond all doubles and half a character. -/
theorem ofText_members_unknown_member :
    ofText " \x7b\"x\":[1e999,\"\\ud800\"], \"dsw_a\" : 191\x7d" = .ok { standard with dipA := some 191 } := by
  let huge : Json.NumberForm :=
    { negative := false, whole := ⟨'1', [], List.all_eq_true.mp rfl⟩, zero_alone := by decide
      fraction := none, exponent := some ⟨false, none, ⟨'9', ['9', '9'], List.all_eq_true.mp rfl⟩⟩ }
  let bank : Json.NumberForm :=
    { negative := false, whole := ⟨'1', ['9', '1'], List.all_eq_true.mp rfl⟩, zero_alone := by decide
      fraction := none, exponent := none }
  let half : Piece := .unit ⟨13, false⟩ ⟨8, false⟩ ⟨0, false⟩ ⟨0, false⟩
  let x : List Piece := [.plain 'x' (by decide)]
  let dsw_a : List Piece := [.plain 'd' (by decide), .plain 's' (by decide), .plain 'w' (by decide),
    .plain '_' (by decide), .plain 'a' (by decide)]
  let junk : Form := .array [.number huge, .string [half]]
  have htext : Json.Writes " \x7b\"x\":[1e999,\"\\ud800\"], \"dsw_a\" : 191\x7d"
      (.object [(x, junk), (dsw_a, .number bank)]) := by
    exact Json.spaced_flatMap
      [([' '], .openObject), ([], .string x), ([], .colon), ([], .openArray), ([], .number huge), ([], .comma),
        ([], .string [half]), ([], .closeArray), ([], .comma), ([' '], .string dsw_a), ([' '], .colon),
        ([' '], .number bank), ([], .closeObject)] [] rfl Json.allBlank_nil
  have hsaid : readings [("x", junk), ("dsw_a", .number bank)] = [(.dipA, some (.dipA (some 191)))] := rfl
  obtain ⟨c, hdefault, hread⟩ := ((ofText_members htext).1 [("x", junk), ("dsw_a", .number bank)] rfl).1
    (by rw [hsaid]; decide) (by rw [hsaid]; exact List.forall_mem_singleton.mpr (Option.some_ne_none _))
  have hbank : DefaultExcept [(.dipA, some (.dipA (some 191)))] { standard with dipA := some 191 } := by
    refine ⟨fun k s hmem => ?_, fun k hk => ?_⟩
    · cases List.mem_singleton.mp hmem
      rfl
    · cases k with
      | dipA => exact absurd List.mem_cons_self hk
      | _ => rfl
  rw [hsaid] at hdefault
  obtain rfl := hbank.unique hdefault (.refl _) (List.forall_mem_singleton.mpr (Option.some_ne_none _))
  rw [hread]
  rfl

end Config

end Arcade
