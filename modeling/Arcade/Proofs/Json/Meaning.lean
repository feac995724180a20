import Arcade.Json.Typed
import Arcade.Proofs.Json.Pass

/-!
# `Arcade.Proofs.Json.Meaning` — what a text is read for, in whatever way it is written

A value means something where data of some kind is asked for, or it means nothing there. A reader follows a meaning
if it reads every value, in every way that it may be written, for what it means, and finds a fault in a value that
means nothing. Readers that are made of others follow meanings that are made of theirs.

## Contents
- `Json.Follows`.
- `Form.string?`, `Form.below?`, `Form.bool?`, `Form.nullable`, `Form.choice?`: plain data, and `follows_text`,
  `follows_naturalBelow`, `follows_boolean`, `Follows.optional`, `follows_choice`.
- `Form.exactly?`, `Follows.exactly`: arrays of a given length.
- `Follows.readWhole`: whole texts.
-/

namespace Arcade

namespace Json

/-- **A reader reads every value for what it means**, in whatever way it is written and before anything that may
follow a value. -/
def Follows {α : Type} (read : Reader α) (means : Form → Option α) : Prop :=
  ∀ (v : Form) (ws : List Word) (text : List Char),
    Ends ws → Spaced (v.words ++ ws) text → Gives ws (read text) (means v)

variable {α β σ : Type} {read : Reader α} {means : Form → Option α}

/-- What is made of the thing read is made of the thing meant. -/
theorem Follows.map (h : Follows read means) (f : α → β) :
    Follows (fun cs => (read cs).map fun (a, rest) => (f a, rest)) fun v => (means v).map f :=
  fun v ws text hends htext => (h v ws text hends htext).map f

/-- A reader that goes on with what another has read follows what it makes of the thing meant. -/
theorem Follows.bind (h : Follows read means) {next : α × List Char → Except Fault (β × List Char)}
    {then? : α → Option β} (hnext : ∀ a ws rest, Spaced ws rest → Gives ws (next (a, rest)) (then? a)) :
    Follows (fun cs => read cs >>= next) fun v => (means v).bind then? :=
  fun v ws text hends htext => (h v ws text hends htext).bind fun a rest hrest => hnext a ws rest hrest

/-- What is made of the thing read, step by step. -/
theorem Follows.bindPure (h : Follows read means) (f : α → β) :
    Follows (fun cs => read cs >>= fun (a, rest) => pure (f a, rest)) fun v => (means v).bind fun a => pure (f a) :=
  h.bind fun _ _ rest hrest => ⟨rest, hrest, rfl⟩

/-! ## Plain data -/

namespace Form

/-- The text of a string. -/
def string? : Form → Option String
  | .string pieces => textOf? pieces
  | _ => none

/-- An integer that is at least zero and below a bound, and written as one. -/
def below? (bound : Nat) : Form → Option Nat
  | .number n => n.natural?.filter (· < bound)
  | _ => none

/-- The truth value. -/
def bool? : Form → Option Bool
  | .bool b => some b
  | _ => none

/-- Nothing but `null`. -/
def null? : Form → Option Unit
  | .null => some ()
  | _ => none

/-- Something that may be absent, which is written `null`. -/
def nullable (means : Form → Option α) : Form → Option (Option α)
  | .null => some none
  | v => (means v).map some

/-- One of several names, alone or as the only member of an object, with the value `null`. -/
def choice? (names : List (String × α)) : Form → Option α
  | .string pieces => (textOf? pieces).bind fun name => names.lookup name
  | .object [(pieces, .null)] => (textOf? pieces).bind fun name => names.lookup name
  | _ => none

end Form

/-- A fixed word is read for what it stands for. -/
theorem word_map (letters rest : List Char) (a : α) :
    (word letters (letters ++ rest)).map (fun rest => (a, rest)) = .ok (a, rest) := by
  rw [word_append]
  rfl

/-- **A string is read for its text.** -/
theorem follows_text : Follows text Form.string? := by
  intro v ws text _ h
  cases v with
  | string pieces =>
    obtain ⟨rest, hrest, hskip⟩ := h.skip
    have hstring := (stringBody_pieces pieces hrest).map String.ofList
    unfold Json.text
    rw [hskip]
    show Gives ws ((stringBody ((pieces.flatMap Piece.text ++ ['"']) ++ rest)).map _) (textOf? pieces)
    rw [List.append_assoc]
    exact hstring
  | _ =>
    obtain ⟨c, cs, hskip, hkind⟩ := h.skip_value
    unfold Json.text
    rw [hskip]
    split
    · next heq =>
      cases heq
      cases hkind
    · exact ⟨_, rfl⟩

/-- **A number is read as an integer below a bound if it is one**, where the bound has at most 64 bits. -/
theorem follows_naturalBelow {bound : Nat} (hbound : bound ≤ UInt64.size) :
    Follows (naturalBelow bound) (Form.below? bound) := by
  intro v ws text hends h
  cases v with
  | number n =>
    obtain ⟨rest, hrest, hskip⟩ := h.skip
    have hbelow := asBelow?_value? n hbound
    unfold naturalBelow
    rw [hskip]
    dsimp only
    rw [if_pos (first_number n)]
    show Gives ws _ (n.natural?.filter (· < bound))
    rw [numeral_number n (hends.delimits hrest), ← hbelow]
    dsimp only
    cases hvalue : n.numeral.value? with
    | none => exact ⟨_, rfl⟩
    | some v =>
      dsimp only [Option.bind_some]
      cases v.asBelow? bound with
      | none => exact ⟨_, rfl⟩
      | some k => exact ⟨rest, hrest, rfl⟩
  | _ =>
    obtain ⟨c, cs, hskip, hkind⟩ := h.skip_value
    unfold naturalBelow
    rw [hskip]
    dsimp only
    split
    · next hnumber =>
      rw [kindOf?_number hnumber] at hkind
      cases hkind
    · exact ⟨_, rfl⟩

theorem follows_boolean : Follows boolean Form.bool? := by
  intro v ws text _ h
  cases v with
  | bool b =>
    obtain ⟨rest, hrest, hskip⟩ := h.skip
    refine ⟨rest, hrest, ?_⟩
    unfold boolean
    rw [hskip]
    cases b <;> exact word_map _ rest _
  | _ =>
    obtain ⟨c, cs, hskip, hkind⟩ := h.skip_value
    unfold boolean
    rw [hskip]
    split
    · next heq =>
      cases heq
      cases hkind
    · next heq =>
      cases heq
      cases hkind
    · exact ⟨_, rfl⟩

theorem follows_nothing : Follows nothing Form.null? := by
  intro v ws text _ h
  cases v with
  | null =>
    obtain ⟨rest, hrest, hskip⟩ := h.skip
    refine ⟨rest, hrest, ?_⟩
    unfold nothing
    rw [hskip]
    exact word_map _ rest _
  | _ =>
    obtain ⟨c, cs, hskip, hkind⟩ := h.skip_value
    unfold nothing
    rw [hskip]
    split
    · next heq =>
      cases heq
      cases hkind
    · exact ⟨_, rfl⟩

/-- Something that may be absent is read as absent if it is `null`, and otherwise for what it means. -/
theorem Follows.optional (h : Follows read means) : Follows (optional read) (Form.nullable means) := by
  intro v ws text hends htext
  cases v with
  | null =>
    obtain ⟨rest, hrest, hskip⟩ := htext.skip
    refine ⟨rest, hrest, ?_⟩
    unfold Json.optional
    rw [hskip]
    exact word_map _ rest _
  | _ =>
    obtain ⟨c, cs, hskip, hkind⟩ := htext.skip_value
    have hread := (h _ ws _ hends htext.skipBlanks).map some
    unfold Json.optional
    rw [hskip] at hread ⊢
    split
    · next heq =>
      cases heq
      cases hkind
    · exact hread

/-- What stands after the only member of an object. -/
theorem closed_moreMembers {members : List (List Piece × Form)} {ws : List Word} {text : List Char}
    (h : Spaced (Form.moreMembers members ++ ws) text) (a : α) :
    Gives ws (match skipBlanks text with
      | [] => .error .ended
      | '}' :: rest => .ok (a, rest)
      | _ => .error .malformed) (if members = [] then some a else none) := by
  cases members with
  | nil =>
    obtain ⟨rest, hrest, hskip⟩ := h.skip
    rw [hskip]
    exact ⟨rest, hrest, rfl⟩
  | cons m members =>
    obtain ⟨rest, -, hskip⟩ := h.skip
    rw [hskip]
    exact ⟨_, rfl⟩

/-- The only member of an object has a name that is looked up, and the value `null`. -/
theorem choice?_object (names : List (String × α)) (name : List Piece) (v : Form)
    (members : List (List Piece × Form)) :
    Form.choice? names (.object ((name, v) :: members)) =
      ((textOf? name).bind fun name => names.lookup name).bind fun a =>
        v.null?.bind fun _ => if members = [] then some a else none := by
  cases members with
  | nil =>
    cases v with
    | null => exact (Option.bind_fun_some _).symm
    | _ => exact (Option.bind_fun_none _).symm
  | cons m members => cases v <;> exact (Option.bind_fun_none _).symm

/-- A name in quotes is looked up, once its opening quote has been taken off. -/
theorem named_pieces (names : List (String × α)) (pieces : List Piece) {ws : List Word} {rest : List Char}
    (hrest : Spaced ws rest) :
    Gives ws (stringBody (pieces.flatMap Piece.text ++ '"' :: rest) >>= fun (name, rest) =>
      match names.lookup (String.ofList name) with
      | none => .error .mismatched
      | some a => pure (a, rest)) ((textOf? pieces).bind fun name => names.lookup name) := by
  unfold textOf?
  rw [Option.bind_map]
  refine (stringBody_pieces pieces hrest).bind fun name rest hrest => ?_
  dsimp only [Function.comp]
  cases names.lookup (String.ofList name) with
  | none => exact ⟨_, rfl⟩
  | some a => exact ⟨rest, hrest, rfl⟩

/-- **A choice is read for the name that stands there.** -/
theorem follows_choice (names : List (String × α)) : Follows (choice names) (Form.choice? names) := by
  intro v ws text hends h
  cases v with
  | string pieces =>
    obtain ⟨rest, hrest, hskip⟩ := h.skip
    have hread := named_pieces names pieces hrest
    rw [List.append_cons] at hread
    unfold choice
    rw [hskip]
    exact hread
  | object members =>
    rw [Form.words_object, List.cons_append] at h
    obtain ⟨rest, hrest, hskip⟩ := h.skip
    unfold choice
    rw [hskip]
    rcases members with _ | ⟨⟨name, v⟩, members⟩
    · obtain ⟨_, -, hskip⟩ := hrest.skip
      have hopen : openName rest = .error .malformed := by
        unfold openName
        rw [hskip]
        rfl
      show Gives ws (openName rest >>= _) none
      rw [hopen]
      exact ⟨_, rfl⟩
    · replace hrest : Spaced (.string name :: .colon :: ((v.words ++ Form.moreMembers members) ++ ws)) rest := hrest
      obtain ⟨afterName, hafterName, hopen⟩ := openName_word hrest
      rw [choice?_object]
      show Gives ws (openName rest >>= _) _
      rw [hopen]
      refine (named_pieces names name hafterName).bind fun a rest hrest => ?_
      refine (colon_word hrest).bind fun rest hrest => ?_
      rw [List.append_assoc] at hrest
      refine (follows_nothing v _ rest (ends_moreMembers members ws) hrest).bind fun _ rest hrest => ?_
      exact closed_moreMembers hrest a
  | _ =>
    obtain ⟨c, cs, hskip, hkind⟩ := h.skip_value
    unfold choice
    rw [hskip]
    split
    · exact ⟨_, rfl⟩
    · next heq =>
      cases heq
      cases hkind
    · next heq =>
      cases heq
      cases hkind
    · exact ⟨_, rfl⟩

/-! ## Arrays -/

/-- The items of an array of a given length. -/
def Form.exactly? (n : Nat) (means : Form → Option α) : Form → Option (List α)
  | .array items => if items.length = n then items.mapM means else none
  | _ => none

/-- Where the items have ended, there is no next one. -/
theorem nextItem_nil (read : Reader α) (first : Bool) {ws : List Word} {text : List Char}
    (h : Spaced (Form.itemWords first [] ++ ws) text) :
    Gives (.closeArray :: ws) (nextItem first read text) (some none) := by
  rw [Form.itemWords_nil] at h
  have hclose := h.skipBlanks
  obtain ⟨rest, -, hskip⟩ := h.skip
  rw [hskip] at hclose
  refine ⟨_, hclose, ?_⟩
  unfold nextItem
  rw [hskip]
  rfl

/-- The first item of an array begins after blanks. -/
theorem nextItem_first {c : Char} {text cs : List Char} (htext : skipBlanks text = c :: cs) (hc : c ≠ ']') :
    nextItem true read text = (read (c :: cs)).map fun (a, rest) => (some a, rest) := by
  unfold nextItem
  rw [htext]
  split
  · next heq => cases heq
  · next heq => exact absurd (List.cons.inj heq).1 hc
  · next heq =>
    cases heq
    exact if_pos rfl

/-- A later item begins after a comma and blanks. -/
theorem nextItem_later {c : Char} {text rest cs : List Char} (hcomma : skipBlanks text = ',' :: rest)
    (hrest : skipBlanks rest = c :: cs) (hc : c ≠ ']') :
    nextItem false read text = (read (c :: cs)).map fun (a, rest) => (some a, rest) := by
  unfold nextItem
  rw [hcomma]
  split
  · next heq => cases heq
  · next heq => exact absurd (List.cons.inj heq).1 (by decide)
  · next heq =>
    cases heq
    rw [if_neg Bool.false_ne_true, if_pos rfl, hrest]
    split
    · next heq => cases heq
    · next heq => exact absurd (List.cons.inj heq).1 hc
    · rfl

/-- The next item is read for what it means, with its comma if it is not the first. -/
theorem Follows.nextItem (h : Follows read means) (first : Bool) (v : Form) (items : List Form) {ws : List Word}
    {text : List Char} (htext : Spaced (Form.itemWords first (v :: items) ++ ws) text) :
    Gives (Form.moreItems items ++ ws) (nextItem first read text) ((means v).map some) := by
  have hread {rest : List Char} (hrest : Spaced (v.words ++ (Form.moreItems items ++ ws)) rest) :
      ∃ c cs, skipBlanks rest = c :: cs ∧ c ≠ ']' ∧
        Gives (Form.moreItems items ++ ws) ((read (c :: cs)).map fun (a, rest) => (some a, rest))
          ((means v).map some) := by
    obtain ⟨c, cs, hskip, hkind⟩ := hrest.skip_value
    have hvalue := (h v _ _ (ends_moreItems items ws) hrest.skipBlanks).map some
    rw [hskip] at hvalue
    refine ⟨c, cs, hskip, ?_, hvalue⟩
    rintro rfl
    cases hkind
  cases first with
  | true =>
    replace htext : Spaced ((v.words ++ Form.moreItems items) ++ ws) text := htext
    rw [List.append_assoc] at htext
    obtain ⟨c, cs, hskip, hclose, hvalue⟩ := hread htext
    rw [nextItem_first hskip hclose]
    exact hvalue
  | false =>
    replace htext : Spaced (.comma :: ((v.words ++ Form.moreItems items) ++ ws)) text := htext
    rw [List.append_assoc] at htext
    obtain ⟨rest, hrest, hcomma⟩ := htext.skip_char
    obtain ⟨c, cs, hskip, hclose, hvalue⟩ := hread hrest
    rw [nextItem_later hcomma hskip hclose]
    exact hvalue

theorem closeArray_word {ws : List Word} {text : List Char} (h : Spaced (.closeArray :: ws) text) :
    Leaves ws (closeArray text) := by
  obtain ⟨rest, hrest, hskip⟩ := h.skip
  refine ⟨rest, hrest, ?_⟩
  unfold closeArray
  rw [hskip]
  rfl

/-- The array does not end where there is another item. -/
theorem closeArray_item (first : Bool) (v : Form) (items : List Form) {ws : List Word} {text : List Char}
    (h : Spaced (Form.itemWords first (v :: items) ++ ws) text) : ∃ fault, closeArray text = .error fault := by
  unfold closeArray
  cases first with
  | true =>
    replace h : Spaced ((v.words ++ Form.moreItems items) ++ ws) text := h
    rw [List.append_assoc] at h
    obtain ⟨c, cs, hskip, hkind⟩ := h.skip_value
    rw [hskip]
    split
    · next heq => cases heq
    · next heq =>
      cases heq
      cases hkind
    · exact ⟨_, rfl⟩
  | false =>
    obtain ⟨rest, -, hskip⟩ := h.skip
    rw [hskip]
    exact ⟨_, rfl⟩

theorem exactly?_cons (means : Form → Option α) (n : Nat) (v : Form) (items : List Form) :
    (if (v :: items).length = n + 1 then (v :: items).mapM means else none) =
      (means v).bind fun a => (if items.length = n then items.mapM means else none).map (a :: ·) := by
  have hlength : (v :: items).length = n + 1 ↔ items.length = n := Nat.succ_inj
  simp only [hlength]
  rw [List.mapM_cons]
  by_cases hn : items.length = n
  · rw [if_pos hn, if_pos hn]
    cases means v with
    | none => rfl
    | some a => cases items.mapM means <;> rfl
  · rw [if_neg hn, if_neg hn]
    exact (Option.bind_fun_none _).symm

/-- The items of an array of a given length are read, and then its bracket. -/
theorem Follows.exactItems (h : Follows read means) (n : Nat) (first : Bool) (items : List Form) {ws : List Word}
    {text : List Char} (htext : Spaced (Form.itemWords first items ++ ws) text) :
    Gives ws (exactItems read n first text >>= fun (as, rest) => (closeArray rest).map fun rest => (as, rest))
      (if items.length = n then items.mapM means else none) := by
  induction n generalizing first items text with
  | zero =>
    cases items with
    | nil =>
      rw [Form.itemWords_nil] at htext
      obtain ⟨rest, hrest, hclose⟩ := closeArray_word htext
      refine ⟨rest, hrest, ?_⟩
      show (closeArray text).map _ = _
      rw [hclose]
      rfl
    | cons v items =>
      obtain ⟨fault, hclose⟩ := closeArray_item first v items htext
      refine ⟨fault, ?_⟩
      show (closeArray text).map _ = _
      rw [hclose]
      rfl
  | succ n ih =>
    cases items with
    | nil =>
      obtain ⟨rest, -, hnext⟩ := nextItem_nil read first htext
      rw [Json.exactItems, hnext]
      exact ⟨_, rfl⟩
    | cons v items =>
      have hnext := h.nextItem first v items htext
      rw [Json.exactItems, exactly?_cons]
      cases hv : means v with
      | none =>
        rw [hv] at hnext
        obtain ⟨fault, hnext⟩ := hnext
        rw [hnext]
        exact ⟨fault, rfl⟩
      | some a =>
        rw [hv] at hnext
        obtain ⟨rest, hrest, hnext⟩ := hnext
        have hlater := (ih false items hrest).map (a :: ·)
        rw [hnext]
        dsimp only
        cases hitems : Json.exactItems read n false rest with
        | error fault =>
          rw [hitems] at hlater
          exact hlater
        | ok result =>
          rw [hitems] at hlater
          obtain ⟨as, rest⟩ := result
          show Gives ws ((closeArray rest).map fun rest => (a :: as, rest)) _
          replace hlater : Gives ws (((closeArray rest).map fun rest => (as, rest)).map
            fun (as, rest) => (a :: as, rest)) _ := hlater
          cases hclose : closeArray rest with
          | error fault =>
            rw [hclose] at hlater
            exact hlater
          | ok rest =>
            rw [hclose] at hlater
            exact hlater

/-- **An array of a given length is read item by item.** -/
theorem Follows.exactly (h : Follows read means) (n : Nat) : Follows (exactly n read) (Form.exactly? n means) := by
  intro v ws text hends htext
  cases v with
  | array items =>
    rw [Form.words_array, List.cons_append] at htext
    obtain ⟨rest, hrest, hskip⟩ := htext.skip
    have hitems := h.exactItems n true items hrest
    unfold Json.exactly
    rw [hskip]
    exact hitems
  | _ =>
    obtain ⟨c, cs, hskip, hkind⟩ := htext.skip_value
    unfold Json.exactly
    rw [hskip]
    split
    · next heq =>
      cases heq
      cases hkind
    · exact ⟨_, rfl⟩

/-! ## Whole texts -/

/-- **A value that is a whole text is read for what it means.** -/
theorem Follows.readWhole (h : Follows read means) {text : String} {v : Form} (htext : Writes text v) {a : α}
    (ha : means v = some a) : readWhole read text.toList = .ok a := by
  have hwords : Spaced (v.words ++ []) text.toList := by
    rw [List.append_nil]
    exact htext
  have hread := h v [] _ ends_nil hwords
  rw [ha] at hread
  obtain ⟨rest, hrest, hread⟩ := hread
  cases hrest with
  | nil hblanks =>
    unfold Json.readWhole
    rw [hread]
    exact if_pos (skipBlanks_of_allBlank hblanks)

/-- A value that means nothing where it stands makes a text unreadable. -/
theorem Follows.readWhole_none (h : Follows read means) {text : String} {v : Form} (htext : Writes text v)
    (ha : means v = none) : ∃ fault, Json.readWhole read text.toList = .error fault := by
  have hwords : Spaced (v.words ++ []) text.toList := by
    rw [List.append_nil]
    exact htext
  have hread := h v [] _ ends_nil hwords
  rw [ha] at hread
  obtain ⟨fault, hread⟩ := hread
  unfold Json.readWhole
  rw [hread]
  exact ⟨fault, rfl⟩

end Json

end Arcade
