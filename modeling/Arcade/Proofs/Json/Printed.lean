import Arcade.Json.Printer
import Arcade.Proofs.Json.Members

/-!
# `Arcade.Proofs.Json.Printed` — printed values

The printer writes a value in one of the ways in which it may be written, at any level of indentation. So what is
printed is read for what it means, like any other text; here is what it means where the data is asked for that was
printed.

## Contents
- `Piece.ofChar`, `Form.ofString`: strings as they are printed.
- `Json.Prints`, and the kinds of values: `prints_string`, `prints_nat`, `Prints.array`, `Prints.object`, …
- `Prints.writes`: whole texts.
- `string?_ofString`, `below?_ofNat`, `choice?_ofString`, `record?_ofMembers`: what is printed means what it says.
-/

namespace Arcade

namespace Json

/-! ## Strings -/

/-- A character as it is printed in a string. -/
def Piece.ofChar (c : Char) : Piece :=
  if hquote : c = '"' then .escape .quote
  else if hbackslash : c = '\\' then .escape .backslash
  else if c = '\x08' then .escape .backspace
  else if c = '\x0c' then .escape .formFeed
  else if c = '\n' then .escape .lineFeed
  else if c = '\r' then .escape .carriageReturn
  else if c = '\t' then .escape .tab
  else if hsmall : c.toNat < 32 then
    .unit ⟨0, false⟩ ⟨0, false⟩ ⟨⟨c.toNat / 16, by omega⟩, false⟩ ⟨⟨c.toNat % 16, by omega⟩, false⟩
  else .plain c ⟨hquote, hbackslash, Nat.not_lt.mp hsmall⟩

theorem Piece.text_ofChar (c : Char) : (ofChar c).text = Json.escape c := by
  unfold ofChar Json.escape
  split_ifs <;> rfl

/-- The number of a control character is no half of a surrogate pair. -/
theorem not_surrogate_of_lt {n : Nat} (h : n < 32) : isTrailing n = false ∧ isLeading n = false := by
  unfold isTrailing isLeading
  rw [Bool.and_eq_false_iff, Bool.and_eq_false_iff]
  exact ⟨.inl (decide_eq_false (by omega)), .inl (decide_eq_false (by omega))⟩

/-- **A printed character stands for itself.** -/
theorem characters?_ofChar (c : Char) (pieces : List Piece) :
    characters? (Piece.ofChar c :: pieces) = (characters? pieces).map (c :: ·) := by
  unfold Piece.ofChar
  split_ifs with hquote hbackslash hb hf hn hr ht hsmall
  · rw [hquote]; rfl
  · rw [hbackslash]; rfl
  · rw [hb]; rfl
  · rw [hf]; rfl
  · rw [hn]; rfl
  · rw [hr]; rfl
  · rw [ht]; rfl
  · have hvalue : unitValue ⟨0, false⟩ ⟨0, false⟩ ⟨⟨c.toNat / 16, by omega⟩, false⟩
        ⟨⟨c.toNat % 16, by omega⟩, false⟩ = c.toNat := by
      simp only [unitValue]
      omega
    obtain ⟨htrailing, hleading⟩ := not_surrogate_of_lt hsmall
    rw [characters?.eq_def]
    simp only [hvalue, htrailing, hleading, Char.ofNat_toNat, Bool.false_eq_true, if_false]
  · rfl

/-- A string as it is printed. -/
def printed (s : String) : List Piece := s.toList.map Piece.ofChar

theorem text_printed (s : String) : (printed s).flatMap Piece.text = s.toList.flatMap escape := by
  unfold printed
  rw [List.flatMap_map]
  exact congrArg (fun f => s.toList.flatMap f) (funext Piece.text_ofChar)

/-- **A printed string says what it is.** -/
theorem textOf?_printed (s : String) : textOf? (printed s) = some s := by
  have hall (cs : List Char) : characters? (cs.map Piece.ofChar) = some cs := by
    induction cs with
    | nil => rfl
    | cons c cs ih => rw [List.map_cons, characters?_ofChar, ih]; rfl
  unfold textOf? printed
  rw [hall, Option.map_some, String.ofList_toList]

namespace Form

/-- A string as it is printed. -/
def ofString (s : String) : Form := .string (printed s)

/-- A natural number as it is printed. -/
def ofNat (n : Nat) : Form := .number (.ofNat n)

/-- An object whose names are as they are printed. -/
def ofMembers (members : List (String × Form)) : Form :=
  .object (members.map fun (name, v) => (printed name, v))

end Form

/-! ## Values -/

/-- **The printer writes a value as some form**, at any level. -/
def Prints (v : Json) (form : Form) : Prop :=
  ∀ level ws rest, Spaced ws rest → Spaced (form.words ++ ws) (prettyText level v ++ rest)

theorem allBlank_newLine (level : Nat) : AllBlank (newLine level) := by
  intro c hc
  unfold newLine at hc
  rcases List.mem_cons.mp hc with rfl | hspace
  · rfl
  · rw [List.eq_of_mem_replicate hspace]
    rfl

/-- Further blanks in front of a text do not matter. -/
theorem Spaced.blanks {blanks text : List Char} {ws : List Word} (hblanks : AllBlank blanks)
    (h : Spaced ws text) : Spaced ws (blanks ++ text) := by
  cases h with
  | nil hmore =>
    refine .nil fun c hc => ?_
    rcases List.mem_append.mp hc with hc | hc
    · exact hblanks c hc
    · exact hmore c hc
  | cons hmore hrest =>
    rw [← List.append_assoc]
    refine .cons (fun c hc => ?_) hrest
    rcases List.mem_append.mp hc with hc | hc
    · exact hblanks c hc
    · exact hmore c hc

/-- A word may stand in front of a text without blanks. -/
theorem Spaced.word {text : List Char} {ws : List Word} (w : Word) (h : Spaced ws text) :
    Spaced (w :: ws) (w.text ++ text) :=
  .cons allBlank_nil h

theorem prints_null : Prints .null .null := fun _ _ _ hrest => hrest.word .null

theorem prints_bool (b : Bool) : Prints (.bool b) (.bool b) := by
  intro level ws rest hrest
  cases b with
  | true => exact hrest.word (.bool true)
  | false => exact hrest.word (.bool false)

theorem prints_string (s : String) : Prints (.string s) (.ofString s) := by
  intro level ws rest hrest
  have htext : prettyText level (.string s) = (Word.string (printed s)).text := by
    show quote s = '"' :: ((printed s).flatMap Piece.text ++ ['"'])
    rw [text_printed]
    rfl
  rw [htext]
  exact hrest.word (.string (printed s))

theorem prints_nat (n : Nat) : Prints (.nat n) (.ofNat n) := by
  intro level ws rest hrest
  have htext : prettyText level (.nat n) = (Word.number (.ofNat n)).text := by
    rw [text_number, NumberForm.text_ofNat]
    rfl
  rw [htext]
  exact hrest.word (.number (.ofNat n))

/-- The items of an array after the first are printed on lines of their own, and the bracket after them. -/
theorem prints_moreItems {vs : List Json} {forms : List Form} (h : List.Forall₂ Prints vs forms) (inner outer : Nat)
    {ws : List Word} {rest : List Char} (hrest : Spaced ws rest) :
    Spaced (Form.moreItems forms ++ ws) (prettyItems inner false vs ++ (newLine outer ++ ']' :: rest)) := by
  induction h with
  | nil =>
    have hclose := (hrest.word .closeArray).blanks (allBlank_newLine outer)
    exact hclose
  | @cons v form vs forms hv _ ih =>
    have hvalue := (hv inner _ _ ih).blanks (allBlank_newLine inner)
    have hitem := hvalue.word .comma
    rw [prettyItems, Form.moreItems]
    simpa only [List.append_assoc, List.cons_append, List.nil_append, Word.text, Word.comma] using hitem

/-- **An array is printed item by item.** -/
theorem Prints.array {vs : List Json} {forms : List Form} (h : List.Forall₂ Prints vs forms) :
    Prints (.array vs) (.array forms) := by
  intro level ws rest hrest
  cases h with
  | nil => exact (hrest.word .closeArray).word .openArray
  | @cons v form vs forms hv hvs =>
    have hitems := hv (level + 1) _ _ (prints_moreItems hvs (level + 1) level hrest)
    have harray := (hitems.blanks (allBlank_newLine (level + 1))).word .openArray
    rw [prettyText, prettyItems, Form.words]
    simpa only [List.append_assoc, List.cons_append, List.nil_append, Word.text, Word.openArray] using harray

/-- A member is printed with its name in quotes. -/
def PrintsMember (m : String × Json) (form : String × Form) : Prop := form.1 = m.1 ∧ Prints m.2 form.2

/-- A name is printed with a colon and a blank after it. -/
theorem prints_name (name : String) {text : List Char} {ws : List Word} (h : Spaced ws text) :
    Spaced (.string (printed name) :: .colon :: ws) (quote name ++ ':' :: ' ' :: text) :=
  prints_string name 0 _ _ ((h.blanks allBlank_space).word .colon)

/-- The members of an object after the first are printed on lines of their own, and the bracket after them. -/
theorem prints_moreMembers {members : List (String × Json)} {forms : List (String × Form)}
    (h : List.Forall₂ PrintsMember members forms) (inner outer : Nat) {ws : List Word} {rest : List Char}
    (hrest : Spaced ws rest) :
    Spaced (Form.moreMembers (forms.map fun (name, v) => (printed name, v)) ++ ws)
      (prettyMembers inner false members ++ (newLine outer ++ '\x7d' :: rest)) := by
  induction h with
  | nil =>
    have hclose := (hrest.word .closeObject).blanks (allBlank_newLine outer)
    exact hclose
  | @cons m form members forms hm _ ih =>
    obtain ⟨_, v⟩ := m
    obtain ⟨name, form⟩ := form
    obtain ⟨rfl, hv⟩ := hm
    have hname := (prints_name name (hv inner _ _ ih)).blanks (allBlank_newLine inner)
    have hmember := hname.word .comma
    rw [prettyMembers, List.map_cons, Form.moreMembers]
    simpa only [List.append_assoc, List.cons_append, List.nil_append, Word.text, Word.comma] using hmember

/-- **An object is printed member by member.** -/
theorem Prints.object {members : List (String × Json)} {forms : List (String × Form)}
    (h : List.Forall₂ PrintsMember members forms) : Prints (.object members) (.ofMembers forms) := by
  intro level ws rest hrest
  unfold Form.ofMembers
  cases h with
  | nil => exact (hrest.word .closeObject).word .openObject
  | @cons m form members forms hm hms =>
    obtain ⟨_, v⟩ := m
    obtain ⟨name, form⟩ := form
    obtain ⟨rfl, hv⟩ := hm
    have hname := prints_name name (hv (level + 1) _ _ (prints_moreMembers hms (level + 1) level hrest))
    have hobject := (hname.blanks (allBlank_newLine (level + 1))).word .openObject
    rw [prettyText, prettyMembers, List.map_cons, Form.words]
    simpa only [List.append_assoc, List.cons_append, List.nil_append, Word.text, Word.openObject] using hobject

/-- **A printed value is a way to write it.** -/
theorem Prints.writes {v : Json} {form : Form} (h : Prints v form) : Writes v.pretty form := by
  have htext := h 0 [] [] (.nil allBlank_nil)
  rw [List.append_nil, List.append_nil] at htext
  unfold Writes pretty
  rw [String.toList_ofList]
  exact htext

/-! ## What is printed means what it says -/

theorem string?_ofString (s : String) : (Form.ofString s).string? = some s := textOf?_printed s

theorem below?_ofNat {n bound : Nat} (h : n < bound) : (Form.ofNat n).below? bound = some n := by
  show (NumberForm.ofNat n).natural?.filter (· < bound) = some n
  rw [NumberForm.natural?_ofNat]
  exact Option.filter_some_pos (decide_eq_true h)

theorem choice?_ofString {α : Type} (names : List (String × α)) (name : String) :
    (Form.ofString name).choice? names = names.lookup name := by
  show (textOf? (printed name)).bind _ = _
  rw [textOf?_printed]
  rfl

theorem named?_printed (members : List (String × Form)) :
    Form.named? (members.map fun (name, v) => (printed name, v)) = some members := by
  induction members with
  | nil => rfl
  | cons m members ih =>
    rw [List.map_cons, Form.named?, textOf?_printed, ih]
    rfl

theorem record?_ofMembers {σ : Type} (slots : List (Slot σ)) (start : σ) (members : List (String × Form)) :
    (Form.ofMembers members).record? slots start = Form.takeMembers slots start members := by
  show (Form.named? (members.map fun (name, v) => (printed name, v))).bind _ = _
  rw [named?_printed]
  rfl

end Json

end Arcade
