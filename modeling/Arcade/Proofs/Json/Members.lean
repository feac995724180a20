import Mathlib.Data.List.Forall2
import Arcade.Proofs.Json.Meaning

/-!
# `Arcade.Proofs.Json.Members` — what records mean

An object is a record if each of its members either has the name of a field that was not read before, and means
something for it, or has another name. Then the members are taken as they come. An array is a record if each of its
items means something for the field in its place.

## Contents
- `Json.Slot`: a field and what values mean for it.
- `Form.named?`, `Form.takeMembers`, `Form.takeItems`, `Form.record?`: what records mean.
- `Field.Fits`, `follows_record`: records are read for what they mean.
-/

namespace Arcade

namespace Json

variable {σ : Type}

/-- A field of a record: what its value does to the fields taken so far, which are kept in a `σ`. -/
structure Slot (σ : Type) where
  name : String
  /-- Whether the field has been taken. -/
  present : σ → Bool
  /-- Takes the field, if the value means something for it. -/
  take : σ → Form → Option σ

namespace Form

/-- The members of an object, if each name is a text. -/
def named? : List (List Piece × Form) → Option (List (String × Form))
  | [] => some []
  | (name, v) :: members =>
    (textOf? name).bind fun name => (named? members).map fun members => (name, v) :: members

/-- Takes the members of an object: a field once, another member without effect. -/
def takeMembers (slots : List (Slot σ)) : σ → List (String × Form) → Option σ
  | s, [] => some s
  | s, (name, v) :: members =>
    match slots.find? fun slot => slot.name = name with
    | none => takeMembers slots s members
    | some slot => if slot.present s then none else (slot.take s v).bind fun s => takeMembers slots s members

/-- Takes the items of an array, each for the field in its place. There may be fewer items than fields. -/
def takeItems : List (Slot σ) → σ → List Form → Option σ
  | _, s, [] => some s
  | [], _, _ :: _ => none
  | slot :: slots, s, v :: items => (slot.take s v).bind fun s => takeItems slots s items

/-- A record, from an object or from an array of its fields. -/
def record? (slots : List (Slot σ)) (start : σ) : Form → Option σ
  | .object members => (named? members).bind (takeMembers slots start)
  | .array items => takeItems slots start items
  | _ => none

end Form

/-- A field is read as a slot says. -/
structure Field.Fits (field : Field σ) (slot : Slot σ) : Prop where
  name : field.name = slot.name
  present : field.present = slot.present
  read : ∀ s, Follows (field.read s) (slot.take s)

variable {fields : List (Field σ)} {slots : List (Slot σ)}

/-- The field of a name fits the slot of that name. -/
theorem find?_fits (h : List.Forall₂ Field.Fits fields slots) (name : String) :
    (fields.find? (fun f => f.name = name) = none ∧ slots.find? (fun slot => slot.name = name) = none) ∨
      ∃ field slot, fields.find? (fun f => f.name = name) = some field ∧
        slots.find? (fun slot => slot.name = name) = some slot ∧ field.Fits slot := by
  induction h with
  | nil => exact .inl ⟨rfl, rfl⟩
  | @cons field slot fields slots hfits _ ih =>
    by_cases hname : slot.name = name
    · right
      refine ⟨field, slot, ?_, ?_, hfits⟩
      · exact List.find?_cons_of_pos (decide_eq_true (hfits.name.trans hname))
      · exact List.find?_cons_of_pos (decide_eq_true hname)
    · rw [List.find?_cons_of_neg (by rwa [hfits.name, decide_eq_true_eq]),
        List.find?_cons_of_neg (by rwa [decide_eq_true_eq])]
      exact ih

theorem nextName_nil (first : Bool) {ws : List Word} {text : List Char}
    (h : Spaced (Form.memberWords first [] ++ ws) text) : Gives ws (nextName first text) (some none) := by
  rw [Form.memberWords_nil] at h
  obtain ⟨rest, hrest, hskip⟩ := h.skip
  refine ⟨rest, hrest, ?_⟩
  unfold nextName
  rw [hskip]
  rfl

/-- The name of a member is read for its text. -/
theorem openName_pieces (name : List Piece) {ws : List Word} {text : List Char}
    (h : Spaced (.string name :: ws) text) :
    Gives ws (openName text >>= fun rest => stringBody rest >>= fun (s, rest) => pure (some (String.ofList s), rest))
      ((textOf? name).map some) := by
  obtain ⟨rest, hrest, hopen⟩ := openName_word h
  unfold textOf?
  rw [hopen, Option.map_map]
  exact (stringBody_pieces name hrest).map (some ∘ String.ofList)

/-- The name of the next member is read for its text, with its comma if it is not the first. -/
theorem nextName_cons (first : Bool) (name : List Piece) (v : Form) (members : List (List Piece × Form))
    {ws : List Word} {text : List Char} (h : Spaced (Form.memberWords first ((name, v) :: members) ++ ws) text) :
    Gives (.colon :: (v.words ++ (Form.moreMembers members ++ ws))) (nextName first text)
      ((textOf? name).map some) := by
  cases first with
  | true =>
    replace h : Spaced (.string name :: .colon :: ((v.words ++ Form.moreMembers members) ++ ws)) text := h
    rw [List.append_assoc] at h
    have hread := openName_pieces name h.skipBlanks
    obtain ⟨rest, -, hskip⟩ := h.skip
    unfold nextName
    rw [hskip] at hread ⊢
    exact hread
  | false =>
    replace h : Spaced (.comma :: .string name :: .colon :: ((v.words ++ Form.moreMembers members) ++ ws)) text := h
    rw [List.append_assoc] at h
    obtain ⟨rest, hrest, hskip⟩ := h.skip_char
    unfold nextName
    rw [hskip]
    exact openName_pieces name hrest

/-- The members of an object are taken as they come, up to the closing bracket. -/
theorem recordMembers_form (hfits : List.Forall₂ Field.Fits fields slots) (members : List (List Piece × Form))
    (first : Bool) (s : σ) {fuel : Nat} (hfuel : members.length < fuel) {ws : List Word} {text : List Char}
    (h : Spaced (Form.memberWords first members ++ ws) text) :
    Gives ws (recordMembers fields fuel first s text)
      ((Form.named? members).bind (Form.takeMembers slots s)) := by
  induction members generalizing fuel first s text with
  | nil =>
    obtain ⟨fuel, rfl⟩ := Nat.exists_eq_add_one_of_ne_zero (Nat.ne_of_gt hfuel)
    obtain ⟨rest, hrest, hname⟩ := nextName_nil first h
    rw [recordMembers, hname]
    exact ⟨rest, hrest, rfl⟩
  | cons m members ih =>
    obtain ⟨name, v⟩ := m
    obtain ⟨fuel, rfl⟩ := Nat.exists_eq_add_one_of_ne_zero (Nat.ne_zero_of_lt hfuel)
    replace hfuel : members.length < fuel := Nat.lt_of_succ_lt_succ hfuel
    have hname := nextName_cons first name v members h
    rw [recordMembers, Form.named?]
    cases htext : textOf? name with
    | none =>
      rw [htext] at hname
      obtain ⟨fault, hname⟩ := hname
      rw [hname]
      exact ⟨fault, rfl⟩
    | some name =>
      rw [htext] at hname
      obtain ⟨rest, hrest, hname⟩ := hname
      obtain ⟨rest', hrest', hcolon⟩ := colon_word hrest
      -- whatever becomes of this member, the later names must be texts as well
      rw [hname, Option.bind_some, Option.bind_map]
      dsimp only [Function.comp_def, Form.takeMembers]
      rcases find?_fits hfits name with ⟨hfield, hslot⟩ | ⟨field, slot, hfield, hslot, hfit⟩
      · obtain ⟨rest'', hrest'', hpass⟩ := passOver_form (ends_moreMembers members ws) hrest'
        rw [hfield, hslot]
        dsimp only
        rw [hcolon]
        dsimp only
        rw [hpass]
        exact ih false s hfuel hrest''
      · have hread := hfit.read s v _ rest' (ends_moreMembers members ws) hrest'
        rw [hfield, hslot]
        dsimp only
        rw [hfit.present]
        cases slot.present s with
        | true =>
          simp only [if_true, Option.bind_fun_none]
          exact ⟨_, rfl⟩
        | false =>
          simp only [Bool.false_eq_true, if_false, hcolon]
          cases hv : slot.take s v with
          | none =>
            rw [hv] at hread
            obtain ⟨fault, hread⟩ := hread
            simp only [hread, Option.bind_none, Option.bind_fun_none]
            exact ⟨fault, rfl⟩
          | some s' =>
            rw [hv] at hread
            obtain ⟨rest'', hrest'', hread⟩ := hread
            rw [hread]
            exact ih false s' hfuel hrest''

/-- The items of an array are taken for the fields in order, up to the closing bracket. -/
theorem recordItems_form (hfits : List.Forall₂ Field.Fits fields slots) (first : Bool) (s : σ) (items : List Form)
    {ws : List Word} {text : List Char} (h : Spaced (Form.itemWords first items ++ ws) text) :
    Gives ws (recordItems fields first s text) (Form.takeItems slots s items) := by
  induction hfits generalizing first s items text with
  | nil =>
    rw [recordItems]
    cases items with
    | nil =>
      rw [Form.itemWords_nil] at h
      obtain ⟨rest, hrest, hclose⟩ := closeArray_word h
      rw [hclose]
      exact ⟨rest, hrest, rfl⟩
    | cons v items =>
      obtain ⟨fault, hclose⟩ := closeArray_item first v items h
      rw [hclose]
      exact ⟨fault, rfl⟩
  | @cons field slot fields slots hfit _ ih =>
    rw [recordItems]
    cases items with
    | nil =>
      obtain ⟨rest, hrest, hnext⟩ := nextItem_nil (field.read s) first h
      obtain ⟨rest, hrest, hclose⟩ := closeArray_word hrest
      rw [hnext]
      dsimp only
      rw [hclose]
      exact ⟨rest, hrest, rfl⟩
    | cons v items =>
      have hnext := (hfit.read s).nextItem first v items h
      rw [Form.takeItems]
      cases hv : slot.take s v with
      | none =>
        rw [hv] at hnext
        obtain ⟨fault, hnext⟩ := hnext
        rw [hnext]
        exact ⟨fault, rfl⟩
      | some s' =>
        rw [hv] at hnext
        obtain ⟨rest, hrest, hnext⟩ := hnext
        rw [hnext]
        exact ih false s' items hrest

/-- **A record is read field by field**, from an object or from an array. -/
theorem follows_record (hfits : List.Forall₂ Field.Fits fields slots) (start : σ) :
    Follows (record fields start) (Form.record? slots start) := by
  intro v ws text _ h
  cases v with
  | object members =>
    rw [Form.words_object, List.cons_append] at h
    obtain ⟨rest, hrest, hskip⟩ := h.skip
    have hfuel : members.length < rest.length + 1 := by
      have hwords := hrest.length_le
      have hmembers := Form.length_le_memberWords true members
      rw [List.length_append] at hwords
      omega
    have hread := recordMembers_form hfits members true start hfuel hrest
    unfold record
    rw [hskip]
    exact hread
  | array items =>
    rw [Form.words_array, List.cons_append] at h
    obtain ⟨rest, hrest, hskip⟩ := h.skip
    have hread := recordItems_form hfits true start items hrest
    unfold record
    rw [hskip]
    exact hread
  | _ =>
    obtain ⟨c, cs, hskip, hkind⟩ := h.skip_value
    unfold record
    rw [hskip]
    split
    · next heq =>
      cases heq
      cases hkind
    · next heq =>
      cases heq
      cases hkind
    · exact ⟨_, rfl⟩

end Json

end Arcade
