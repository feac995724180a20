import Arcade.Json.Record

/-!
# `Arcade.Proofs.Json.Record` — what is written is read back

A writer of JSON values and a reader belong together if the reader gives back whatever the writer
writes (`Json.Reads`). Here are the two ways in which larger writers are made of smaller ones: lists of
a known length, and records, whose members are looked up by their names.

## Contents
- `Json.Reads`, and the numbers and booleans.
- `asString?_eq_some`, `asBelow?_eq_some`: only what is written is read so.
- `Reads.items`, `Reads.exactly`: lists.
- `lookup_zip`, `fields?_object`: records.
-/

namespace Arcade

namespace Json

/-- The reader gives back whatever the writer writes. -/
def Reads {α : Type} (read : Json → Option α) (write : α → Json) : Prop :=
  ∀ a, read (write a) = some a

/-! ## Numbers and booleans -/

theorem asBelow?_nat {n bound : Nat} (h : n < bound) : (Json.nat n).asBelow? bound = some n := by
  have hrange : (0 : Int) ≤ n ∧ (n : Int) < bound := ⟨Int.natCast_nonneg n, Int.ofNat_lt.mpr h⟩
  show (if (0 : Int) ≤ n ∧ (n : Int) < bound then some (n : Int).toNat else none) = some n
  rw [if_pos hrange, Int.toNat_natCast]

theorem asString?_eq_some {v : Json} {text : String} :
    v.asString? = some text ↔ v = .string text := by
  cases v <;> simp [asString?]

theorem asBelow?_eq_some {v : Json} {bound n : Nat} :
    v.asBelow? bound = some n ↔ n < bound ∧ v = .nat n := by
  constructor
  · intro h
    unfold asBelow? at h
    split at h
    next k =>
      split at h
      next hrange =>
        cases h
        have hk : (k.toNat : Int) = k := Int.toNat_of_nonneg hrange.1
        exact ⟨by omega, congrArg integer hk.symm⟩
      · cases h
    · cases h
  · rintro ⟨hn, rfl⟩
    exact asBelow?_nat hn

/-- Numbers that all lie below a bound and can be told by their values are read back. -/
theorem reads_below {α : Type} {bound : Nat} {ofNat : Nat → α} {toNat : α → Nat}
    (hlt : ∀ a, toNat a < bound) (hback : ∀ a, ofNat (toNat a) = a) :
    Reads (fun v => (v.asBelow? bound).map ofNat) fun a => .nat (toNat a) := by
  intro a
  show ((Json.nat (toNat a)).asBelow? bound).map ofNat = some a
  rw [asBelow?_nat (hlt a), Option.map_some, hback]

theorem reads_uint8 : Reads asUInt8? fun b : UInt8 => .nat b.toNat :=
  reads_below UInt8.toNat_lt fun _ => UInt8.ofNat_toNat

theorem reads_uint32 : Reads asUInt32? fun n : UInt32 => .nat n.toNat :=
  reads_below UInt32.toNat_lt fun _ => UInt32.ofNat_toNat

theorem reads_uint64 : Reads asUInt64? fun n : UInt64 => .nat n.toNat :=
  reads_below UInt64.toNat_lt fun _ => UInt64.ofNat_toNat

theorem reads_bool : Reads asBool? .bool := fun _ => rfl

/-! ## Lists -/

section Lists

variable {α : Type} {read : Json → Option α} {write : α → Json}

theorem Reads.items (h : Reads read write) (l : List α) : (l.map write).mapM read = some l := by
  induction l with
  | nil => rfl
  | cons a l ih =>
    rw [List.map_cons, List.mapM_cons, h a, ih]
    rfl

theorem Reads.exactly (h : Reads read write) {n : Nat} {l : List α} (hl : l.length = n) :
    (Json.array (l.map write)).exactly? n read = some l := by
  show (if (l.map write).length = n then (l.map write).mapM read else none) = some l
  rw [List.length_map, if_pos hl, h.items]

end Lists

/-! ## Records -/

/-- Under names that are all different every value is found under its own. -/
theorem lookup_zip {names : List String} {values : List Json} (hn : names.Nodup)
    (hl : names.length = values.length) :
    names.map (fun name => (names.zip values).lookup name) = values.map some := by
  induction names generalizing values with
  | nil =>
    rw [List.eq_nil_of_length_eq_zero hl.symm]
    rfl
  | cons n ns ih =>
    cases values with
    | nil => cases hl
    | cons v vs =>
      obtain ⟨hnotMem, hrest⟩ := List.nodup_cons.mp hn
      have htail : ns.map (fun name => ((n, v) :: ns.zip vs).lookup name) =
          ns.map fun name => (ns.zip vs).lookup name := by
        apply List.map_congr_left
        intro name hname
        -- a later name is another one, so the first member is passed over
        have hne : (name == n) = false := beq_false_of_ne fun heq => hnotMem (heq ▸ hname)
        rw [List.lookup_cons, hne]
      rw [List.zip_cons_cons, List.map_cons, List.lookup_cons_self, htail, ih hrest (Nat.succ.inj hl),
        List.map_cons]

/-- **A record written under different names is read field by field.** -/
theorem fields?_object {names : List String} (values : List Json) (hn : names.Nodup)
    (hl : names.length = values.length) :
    (Json.object (names.zip values)).fields? names = some (values.map some) :=
  congrArg some (lookup_zip hn hl)

end Json

end Arcade
