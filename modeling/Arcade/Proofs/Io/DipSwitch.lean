import Arcade.Io.DipSwitch
import Arcade.Proofs.Bits
import Mathlib.Data.List.Induction
import Mathlib.Data.List.Pairwise

/-!
# `Arcade.Proofs.Io.DipSwitch` — which field decides a switch

A bank as set at the factory is made by putting one field after the other into it. So a switch is decided by the
last field that has it in its mask, and is on if no field has; the bits that a default has outside its mask do not
matter. If no two fields share a switch, then each is decided by one field at most: the order of the fields does
not matter, and neither does what the others are set to for the label of a field.

## Contents
- `DipField.put`, `isHigh_put`: a bank with the switches of one field set as in a value.
- `DipField.describe_congr`, `DipField.Apart`, `Apart.describe_put`: what a label depends on.
- `DipBank.lastWith`, `isHigh_default`: the field that decides a switch.
- `DipBank.Disjoint`, `default_perm`, `describe_default`, `describe_put`: fields that share no switch.
- `DipBank.last_field_decides`.
-/

namespace Arcade

/-! ## One field -/

namespace DipField

/-- A bank with the switches of a field set as they are in a value. -/
def put (f : DipField) (value bank : UInt8) : UInt8 := (bank &&& ~~~ f.mask) ||| (value &&& f.mask)

theorem isHigh_put (f : DipField) (value bank : UInt8) (line : Nat) :
    isHigh line (f.put value bank) = if isHigh line f.mask then isHigh line value else isHigh line bank := by
  unfold put
  rw [isHigh_or, isHigh_and, isHigh_and, isHigh_not]
  by_cases hline : line < 8
  · cases isHigh line f.mask <;> simp [hline]
  · have hnone := isHigh_of_le (Nat.le_of_not_lt hline)
    rw [hnone, hnone, hnone]
    rfl

/-- The label of a field depends on its own switches only. -/
theorem describe_congr {f : DipField} {bank bank' : UInt8}
    (h : ∀ line < 8, isHigh line f.mask = true → isHigh line bank = isHigh line bank') :
    f.describe bank = f.describe bank' := by
  have hmasked : bank &&& f.mask = bank' &&& f.mask := by
    apply eq_iff_isHigh.mpr
    intro line hline
    rw [isHigh_and, isHigh_and]
    cases hmask : isHigh line f.mask with
    | false => simp
    | true => rw [h line hline hmask]
  unfold describe
  rw [hmasked]

/-- Two fields have no switch in common. -/
def Apart (f g : DipField) : Prop := f.mask &&& g.mask = 0

instance (f g : DipField) : Decidable (f.Apart g) := inferInstanceAs (Decidable (f.mask &&& g.mask = 0))

theorem Apart.symm {f g : DipField} (h : f.Apart g) : g.Apart f := (UInt8.and_comm _ _).trans h

instance : Std.Symm Apart := ⟨fun _ _ => Apart.symm⟩

theorem Apart.isHigh_eq_false {f g : DipField} (h : f.Apart g) {line : Nat} (hline : isHigh line f.mask = true) :
    isHigh line g.mask = false := by
  have hboth := congrArg (isHigh line) h
  rw [isHigh_and, hline, Bool.true_and] at hboth
  rw [hboth]
  exact Nat.zero_testBit line

/-- The label of a field does not change with a field with which it shares no switch. -/
theorem Apart.describe_put {f g : DipField} (h : f.Apart g) (value bank : UInt8) :
    g.describe (f.put value bank) = g.describe bank := by
  apply describe_congr
  intro line _ hmask
  rw [isHigh_put, h.symm.isHigh_eq_false hmask]
  rfl

end DipField

namespace DipBank

/-! ## All fields -/

/-- The last field that has a switch in its mask, if any has. -/
def lastWith (line : Nat) (fields : List DipField) : Option DipField :=
  fields.reverse.find? fun f => isHigh line f.mask

theorem default_snoc (fields : List DipField) (f : DipField) :
    default (fields ++ [f]) = f.put f.default (default fields) := by
  unfold default
  rw [List.foldl_append]
  rfl

theorem lastWith_snoc (line : Nat) (fields : List DipField) (f : DipField) :
    lastWith line (fields ++ [f]) = if isHigh line f.mask then some f else lastWith line fields := by
  unfold lastWith
  rw [List.reverse_append, List.reverse_singleton, List.singleton_append, List.find?_cons]
  cases isHigh line f.mask <;> rfl

/-- **A switch is decided by the last field that has it**, and is on if none has. -/
theorem isHigh_default {line : Nat} (hline : line < 8) (fields : List DipField) :
    isHigh line (default fields) =
      match lastWith line fields with
      | some f => isHigh line f.default
      | none => true := by
  induction fields using List.reverseRecOn with
  | nil =>
    have hall : ∀ line < 8, isHigh line 0xFF = true := by decide
    exact hall line hline
  | append_singleton fields f ih =>
    rw [default_snoc, lastWith_snoc, DipField.isHigh_put]
    cases isHigh line f.mask with
    | true => rfl
    | false => exact ih

variable {fields fields' : List DipField} {f g : DipField} {line : Nat}

theorem lastWith_eq_some (h : lastWith line fields = some f) : f ∈ fields ∧ isHigh line f.mask = true := by
  unfold lastWith at h
  have hmask := List.find?_some h
  exact ⟨List.mem_reverse.mp (List.mem_of_find?_eq_some h), hmask⟩

theorem lastWith_eq_none_iff : lastWith line fields = none ↔ ∀ f ∈ fields, isHigh line f.mask = false := by
  unfold lastWith
  simp

/-! ## Fields that share no switch -/

/-- No two fields have a switch in common. -/
def Disjoint (fields : List DipField) : Prop := fields.Pairwise DipField.Apart

instance (fields : List DipField) : Decidable (Disjoint fields) :=
  inferInstanceAs (Decidable (fields.Pairwise DipField.Apart))

/-- A switch belongs to one field at most. -/
theorem Disjoint.eq_of_isHigh (h : Disjoint fields) (hf : f ∈ fields) (hg : g ∈ fields)
    (hline : isHigh line f.mask = true) (hline' : isHigh line g.mask = true) : f = g := by
  by_contra hne
  have hapart : f.Apart g := List.Pairwise.forall h hf hg hne
  rw [hapart.isHigh_eq_false hline] at hline'
  cases hline'

theorem Disjoint.lastWith_eq (h : Disjoint fields) (hf : f ∈ fields) (hline : isHigh line f.mask = true) :
    lastWith line fields = some f := by
  cases hlast : lastWith line fields with
  | none =>
    rw [lastWith_eq_none_iff.mp hlast f hf] at hline
    cases hline
  | some g =>
    obtain ⟨hg, hline'⟩ := lastWith_eq_some hlast
    rw [h.eq_of_isHigh hf hg hline hline']

theorem Disjoint.perm (h : Disjoint fields) (hperm : fields.Perm fields') : Disjoint fields' :=
  hperm.pairwise h fun hapart => hapart.symm

/-- **The order of the fields does not matter** if they share no switch. -/
theorem Disjoint.default_perm (h : Disjoint fields) (hperm : fields.Perm fields') :
    default fields' = default fields := by
  apply eq_iff_isHigh.mpr
  intro line hline
  have hlast : lastWith line fields' = lastWith line fields := by
    cases hlast : lastWith line fields with
    | none =>
      apply lastWith_eq_none_iff.mpr
      intro f hf
      exact lastWith_eq_none_iff.mp hlast f (hperm.mem_iff.mpr hf)
    | some f =>
      obtain ⟨hf, hmask⟩ := lastWith_eq_some hlast
      exact (h.perm hperm).lastWith_eq (hperm.mem_iff.mp hf) hmask
  rw [isHigh_default hline, isHigh_default hline, hlast]

/-- **Every field is at its default** if they share no switch. -/
theorem Disjoint.describe_default (h : Disjoint fields) (hf : f ∈ fields) :
    f.describe (default fields) = f.describe (f.default &&& f.mask) := by
  apply DipField.describe_congr
  intro line hline hmask
  rw [isHigh_default hline, h.lastWith_eq hf hmask, isHigh_and, hmask, Bool.and_true]

/-- **To set one field changes no other label** if they share no switch. -/
theorem Disjoint.describe_put (h : Disjoint fields) {i j : Nat} (hf : fields[i]? = some f) (hne : j ≠ i)
    (value bank : UInt8) : (describe fields (f.put value bank))[j]? = (describe fields bank)[j]? := by
  unfold describe
  rw [List.getElem?_map, List.getElem?_map]
  cases hg : fields[j]? with
  | none => rfl
  | some g =>
    obtain ⟨hi, rfl⟩ := List.getElem?_eq_some_iff.mp hf
    obtain ⟨hj, rfl⟩ := List.getElem?_eq_some_iff.mp hg
    have hapart : fields[i].Apart fields[j] := by
      rcases Nat.lt_or_gt_of_ne hne with hlt | hlt
      · exact (List.pairwise_iff_getElem.mp h j i hj hi hlt).symm
      · exact List.pairwise_iff_getElem.mp h i j hi hj hlt
    rw [Option.map_some, Option.map_some, hapart.describe_put]

/-! ## The law -/

/-- **The last field that has a switch decides it.** Take any fields, with any masks and defaults. In the bank as set
at the factory each switch is as in the default of the last field that has it in its mask, and on if no field has
it. If no two of the fields share a switch, then the same fields in any order make the same bank; each has in it the
label of its own default; and in any bank, to set the switches of one to any value changes the label of no other. -/
theorem last_field_decides (fields : List DipField) :
    (∀ line < 8, isHigh line (default fields) =
        match lastWith line fields with
        | some f => isHigh line f.default
        | none => true) ∧
      (Disjoint fields →
        (∀ fields', fields.Perm fields' → default fields' = default fields) ∧
          (∀ f ∈ fields, f.describe (default fields) = f.describe (f.default &&& f.mask)) ∧
          ∀ (i : Nat) (f : DipField), fields[i]? = some f → ∀ j ≠ i, ∀ value bank : UInt8,
            (describe fields (f.put value bank))[j]? = (describe fields bank)[j]?) := by
  refine ⟨fun line hline => isHigh_default hline fields, fun h => ⟨?_, ?_, ?_⟩⟩
  · intro fields' hperm
    exact h.default_perm hperm
  · intro f hf
    exact h.describe_default hf
  · intro i f hf j hne value bank
    exact h.describe_put hf hne value bank

/-- Two fields of which one has a default beyond its mask, and two switches that are in neither. -/
theorem last_field_decides_stray_default :
    let low : DipField := ⟨"low", 0x0F, 0xF5, [⟨0x05, "five"⟩]⟩
    let high : DipField := ⟨"high", 0x30, 0x20, [⟨0x20, "two"⟩]⟩
    isHigh 4 (default [low, high]) = false ∧ isHigh 7 (default [low, high]) = true ∧ Disjoint [low, high] ∧
      default [high, low] = default [low, high] ∧ low.describe (default [low, high]) = some "five" ∧
      (describe [low, high] (low.put 0xFF (default [low, high])))[1]? = some ("high", "two") := by
  intro low high
  obtain ⟨hdecides, hdisjoint⟩ := last_field_decides [low, high]
  have h : Disjoint [low, high] := by decide
  obtain ⟨hperm, hdefault, hput⟩ := hdisjoint h
  refine ⟨(hdecides 4 (by decide)).trans ?_, (hdecides 7 (by decide)).trans ?_, h, hperm _ (.swap high low []),
    (hdefault low List.mem_cons_self).trans ?_, (hput 0 low rfl 1 (by decide) 0xFF _).trans ?_⟩
  all_goals decide

end DipBank

end Arcade
