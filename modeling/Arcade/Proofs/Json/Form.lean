import Arcade.Proofs.Json.Numbers

/-!
# `Arcade.Proofs.Json.Form` — JSON texts as they stand

The same value can be written in many ways: with any blanks between its words, any character of a string
escaped or not, any number of members with any names. A `Form` is a value as it is written, down to each word,
and the blanks are left open: a text is any spacing of the words of a form. Every JSON text is one.

Half of a surrogate pair may be escaped in a string, and then the string is no text. A number may have any size.

## Contents
- `Json.Escape`, `Json.HexDigit`, `Json.Piece`: strings.
- `Json.Form`, `Form.words`: values and the words that they are written with.
- `Json.Kind`, `kindOf?_head`: the first character of a value.
- `Json.Spaced`: texts that hold some words with blanks between them.
- `Json.textOf?`: what a string says.
-/

namespace Arcade

namespace Json

/-! ## Blanks -/

/-- The text consists of blanks. -/
def AllBlank (text : List Char) : Prop := ∀ c ∈ text, isBlank c = true

theorem allBlank_nil : AllBlank [] := nofun

theorem allBlank_space : AllBlank [' '] := by
  rintro c (_ | ⟨_, ⟨⟩⟩)
  rfl

theorem skipBlanks_append {blanks : List Char} (h : AllBlank blanks) (cs : List Char) :
    skipBlanks (blanks ++ cs) = skipBlanks cs :=
  List.dropWhile_append_of_pos h

theorem skipBlanks_cons {c : Char} (h : isBlank c = false) (cs : List Char) :
    skipBlanks (c :: cs) = c :: cs :=
  List.dropWhile_cons_of_neg (Bool.eq_false_iff.mp h)

/-! ## Strings -/

/-- An escape of one letter. -/
inductive Escape
  | quote
  | backslash
  | slash
  | backspace
  | formFeed
  | lineFeed
  | carriageReturn
  | tab

/-- The letter of an escape. -/
def Escape.letter : Escape → Char
  | .quote => '"'
  | .backslash => '\\'
  | .slash => '/'
  | .backspace => 'b'
  | .formFeed => 'f'
  | .lineFeed => 'n'
  | .carriageReturn => 'r'
  | .tab => 't'

/-- The character that an escape stands for. -/
def Escape.char : Escape → Char
  | .quote => '"'
  | .backslash => '\\'
  | .slash => '/'
  | .backspace => '\x08'
  | .formFeed => '\x0c'
  | .lineFeed => '\n'
  | .carriageReturn => '\r'
  | .tab => '\t'

/-- A hexadecimal digit, in either case if it is a letter. -/
structure HexDigit where
  value : Fin 16
  capital : Bool

/-- The digit as it stands. -/
def HexDigit.char (d : HexDigit) : Char :=
  Char.ofNat (if d.value.val < 10 then 48 + d.value else (if d.capital then 55 else 87) + d.value)

/-- A piece of a string. -/
inductive Piece
  | plain (c : Char) (h : c ≠ '"' ∧ c ≠ '\\' ∧ 32 ≤ c.toNat)
  | escape (e : Escape)
  /-- A number of four digits: a character, or half of a surrogate pair. -/
  | unit (a b c d : HexDigit)

/-- The piece as it stands. -/
def Piece.text : Piece → List Char
  | .plain c _ => [c]
  | .escape e => ['\\', e.letter]
  | .unit a b c d => ['\\', 'u', a.char, b.char, c.char, d.char]

/-- The value of four hexadecimal digits. -/
def unitValue (a b c d : HexDigit) : Nat :=
  ((a.value * 16 + b.value.val) * 16 + c.value.val) * 16 + d.value.val

/-- The characters of a string. The halves of surrogate pairs must belong together. -/
def characters? : List Piece → Option (List Char)
  | [] => some []
  | .plain c _ :: pieces => (characters? pieces).map (c :: ·)
  | .escape e :: pieces => (characters? pieces).map (e.char :: ·)
  | .unit a b c d :: pieces =>
    if isTrailing (unitValue a b c d) then none
    else if isLeading (unitValue a b c d) then
      match pieces with
      | .unit a' b' c' d' :: pieces =>
        if isTrailing (unitValue a' b' c' d') then
          (characters? pieces).map (joinPair (unitValue a b c d) (unitValue a' b' c' d') :: ·)
        else none
      | _ => none
    else (characters? pieces).map (Char.ofNat (unitValue a b c d) :: ·)

/-- What a string says, if it is a text. -/
def textOf? (pieces : List Piece) : Option String := (characters? pieces).map String.ofList

/-! ## Values -/

/-- A value as it may be written. -/
inductive Form
  | null
  | bool (b : Bool)
  | number (n : NumberForm)
  | string (pieces : List Piece)
  | array (items : List Form)
  | object (members : List (List Piece × Form))

/-- A word of a text: it does not begin with a blank. -/
structure Word where
  first : Char
  more : List Char
  solid : isBlank first = false

/-- The word as it stands. -/
def Word.text (w : Word) : List Char := w.first :: w.more

namespace Word

/-- The words that are names of values. -/
def null : Word := ⟨'n', ['u', 'l', 'l'], rfl⟩

/-- The word for a truth value. -/
def bool (b : Bool) : Word := if b then ⟨'t', ['r', 'u', 'e'], rfl⟩ else ⟨'f', ['a', 'l', 's', 'e'], rfl⟩

/-- The word for a number. -/
def number (n : NumberForm) : Word :=
  if n.negative then ⟨'-', n.whole.text ++ n.tail, rfl⟩
  else ⟨n.whole.first, n.whole.more ++ n.tail, isBlank_digit n.whole.isDigit_first⟩

/-- The word for a string. -/
def string (pieces : List Piece) : Word := ⟨'"', pieces.flatMap Piece.text ++ ['"'], rfl⟩

/-- The comma between items and between members. -/
def comma : Word := ⟨',', [], rfl⟩

/-- The colon after the name of a member. -/
def colon : Word := ⟨':', [], rfl⟩

/-- The brackets of arrays and of objects. -/
def openArray : Word := ⟨'[', [], rfl⟩

/-- The bracket that ends an array. -/
def closeArray : Word := ⟨']', [], rfl⟩

/-- The bracket that begins an object. -/
def openObject : Word := ⟨'\x7b', [], rfl⟩

/-- The bracket that ends an object. -/
def closeObject : Word := ⟨'\x7d', [], rfl⟩

end Word

namespace Form

mutual

/-- The words of a value. -/
def words : Form → List Word
  | .null => [.null]
  | .bool b => [.bool b]
  | .number n => [.number n]
  | .string pieces => [.string pieces]
  | .array [] => [.openArray, .closeArray]
  | .array (v :: items) => .openArray :: (words v ++ moreItems items)
  | .object [] => [.openObject, .closeObject]
  | .object ((name, v) :: members) =>
    .openObject :: .string name :: .colon :: (words v ++ moreMembers members)

/-- What stands after an item of an array: further items, a comma before each, and the bracket. -/
def moreItems : List Form → List Word
  | [] => [.closeArray]
  | v :: items => .comma :: (words v ++ moreItems items)

/-- What stands after a member of an object: further members, a comma before each, and the bracket. -/
def moreMembers : List (List Piece × Form) → List Word
  | [] => [.closeObject]
  | (name, v) :: members => .comma :: .string name :: .colon :: (words v ++ moreMembers members)

end

end Form

namespace Form

/-- The words of an array after its first bracket, or from its second item on. -/
def itemWords : Bool → List Form → List Word
  | true, [] => [.closeArray]
  | true, v :: items => v.words ++ moreItems items
  | false, items => moreItems items

theorem itemWords_nil (first : Bool) : itemWords first [] = [.closeArray] := by
  cases first <;> rfl

theorem words_array (items : List Form) : (array items).words = .openArray :: itemWords true items := by
  cases items <;> rfl

/-- The words of an object after its first bracket, or from its second member on. -/
def memberWords : Bool → List (List Piece × Form) → List Word
  | true, [] => [.closeObject]
  | true, (name, v) :: members => .string name :: .colon :: (v.words ++ moreMembers members)
  | false, members => moreMembers members

theorem memberWords_nil (first : Bool) : memberWords first [] = [.closeObject] := by
  cases first <;> rfl

theorem words_object (members : List (List Piece × Form)) :
    (object members).words = .openObject :: memberWords true members := by
  cases members <;> rfl

/-- Each member takes a word at least. -/
theorem length_le_moreMembers (members : List (List Piece × Form)) :
    members.length ≤ (moreMembers members).length := by
  induction members with
  | nil => exact Nat.zero_le _
  | cons m members ih =>
    simp only [moreMembers, List.length_cons, List.length_append]
    omega

theorem length_le_memberWords (first : Bool) (members : List (List Piece × Form)) :
    members.length ≤ (memberWords first members).length := by
  cases first with
  | false => exact length_le_moreMembers members
  | true =>
    cases members with
    | nil => exact Nat.zero_le _
    | cons m members =>
      have hmore := length_le_moreMembers members
      simp only [memberWords, List.length_cons, List.length_append]
      omega

end Form

/-! ## Kinds -/

/-- The kinds of values. -/
inductive Kind
  | null
  | bool
  | number
  | string
  | array
  | object
  deriving DecidableEq

/-- The kind of the values that begin with a character. -/
def kindOf? (c : Char) : Option Kind :=
  if c = 'n' then some .null
  else if c = 't' ∨ c = 'f' then some .bool
  else if c = '"' then some .string
  else if c = '[' then some .array
  else if c = '\x7b' then some .object
  else if c = '-' ∨ c.isDigit then some .number
  else none

namespace Form

/-- The kind of a value. -/
def kind : Form → Kind
  | .null => .null
  | .bool _ => .bool
  | .number _ => .number
  | .string _ => .string
  | .array _ => .array
  | .object _ => .object

/-- The word that a value begins with. -/
def head : Form → Word
  | .null => .null
  | .bool b => .bool b
  | .number n => .number n
  | .string pieces => .string pieces
  | .array _ => .openArray
  | .object _ => .openObject

theorem words_cons (v : Form) : ∃ ws, v.words = v.head :: ws := by
  cases v with
  | array items => exact ⟨_, words_array items⟩
  | object members => exact ⟨_, words_object members⟩
  | _ => exact ⟨_, rfl⟩

theorem length_words_pos (v : Form) : 0 < v.words.length := by
  obtain ⟨ws, hwords⟩ := v.words_cons
  rw [hwords]
  exact Nat.succ_pos _

end Form

/-- A number begins with a sign or with a digit. -/
theorem first_number (n : NumberForm) :
    (Word.number n).first = '-' ∨ (Word.number n).first.isDigit = true := by
  unfold Word.number
  cases n.negative with
  | true => exact .inl rfl
  | false => exact .inr n.whole.isDigit_first

theorem text_number (n : NumberForm) : (Word.number n).text = n.text := by
  unfold Word.number NumberForm.text
  cases n.negative <;> rfl

theorem kindOf?_number {c : Char} (h : c = '-' ∨ c.isDigit = true) : kindOf? c = some .number := by
  rcases h with rfl | hdigit
  · rfl
  · simp [kindOf?, digit_ne hdigit, hdigit]

/-- A number is read as it is written. -/
theorem numeral_number (n : NumberForm) {rest : List Char} (hrest : Delimits rest) :
    numeral ((Word.number n).first :: ((Word.number n).more ++ rest)) = .ok (n.numeral, rest) := by
  have hnumeral := numeral_text n hrest
  rw [← text_number] at hnumeral
  exact hnumeral

/-- **The first character of a value tells its kind.** -/
theorem kindOf?_head (v : Form) : kindOf? v.head.first = some v.kind := by
  cases v with
  | bool b => cases b <;> rfl
  | number n => exact kindOf?_number (first_number n)
  | _ => rfl

/-! ## Texts -/

/-- A text holds some words, with any blanks before, between and after them. -/
inductive Spaced : List Word → List Char → Prop
  | nil {blanks : List Char} : AllBlank blanks → Spaced [] blanks
  | cons {blanks rest : List Char} {w : Word} {ws : List Word} :
    AllBlank blanks → Spaced ws rest → Spaced (w :: ws) (blanks ++ (w.text ++ rest))

/-- A text is a way to write a value. -/
def Writes (text : String) (v : Form) : Prop := Spaced v.words text.toList

/-- Words with blanks before each, and blanks at the end, are a text of these words. -/
theorem spaced_flatMap (pairs : List (List Char × Word)) (last : List Char)
    (hblanks : (pairs.all fun p => p.1.all isBlank) = true) (hlast : AllBlank last) :
    Spaced (pairs.map Prod.snd) (pairs.flatMap (fun p => p.1 ++ p.2.text) ++ last) := by
  induction pairs with
  | nil => exact .nil hlast
  | cons p pairs ih =>
    rw [List.all_cons, Bool.and_eq_true] at hblanks
    rw [List.flatMap_cons, List.append_assoc, List.append_assoc]
    exact .cons (List.all_eq_true.mp hblanks.1) (ih hblanks.2)

theorem skipBlanks_of_allBlank {blanks : List Char} (h : AllBlank blanks) : skipBlanks blanks = [] := by
  have hskip := skipBlanks_append h []
  rw [List.append_nil] at hskip
  exact hskip

/-- After blanks, the next word is there as it stands. -/
theorem Spaced.skip {w : Word} {ws : List Word} {text : List Char} (h : Spaced (w :: ws) text) :
    ∃ rest, Spaced ws rest ∧ skipBlanks text = w.first :: (w.more ++ rest) := by
  cases h with
  | cons hblanks hrest =>
    refine ⟨_, hrest, ?_⟩
    rw [skipBlanks_append hblanks]
    exact skipBlanks_cons w.solid _

/-- After blanks, a word of one character is that character. -/
theorem Spaced.skip_char {c : Char} {hc : isBlank c = false} {ws : List Word} {text : List Char}
    (h : Spaced (⟨c, [], hc⟩ :: ws) text) : ∃ rest, Spaced ws rest ∧ skipBlanks text = c :: rest :=
  h.skip

/-- After blanks, a value begins with a character that tells its kind. -/
theorem Spaced.skip_value {v : Form} {ws : List Word} {text : List Char} (h : Spaced (v.words ++ ws) text) :
    ∃ c cs, Json.skipBlanks text = c :: cs ∧ kindOf? c = some v.kind := by
  obtain ⟨more, hwords⟩ := v.words_cons
  rw [hwords] at h
  obtain ⟨rest, -, hskip⟩ := h.skip
  exact ⟨_, _, hskip, kindOf?_head v⟩

/-- Blanks in front of a text do not matter. -/
theorem Spaced.skipBlanks {ws : List Word} {text : List Char} (h : Spaced ws text) :
    Spaced ws (skipBlanks text) := by
  cases h with
  | nil hblanks =>
    rw [skipBlanks_of_allBlank hblanks]
    exact .nil allBlank_nil
  | @cons blanks rest w ws hblanks hrest =>
    rw [skipBlanks_append hblanks]
    have hsame : Json.skipBlanks (w.text ++ rest) = [] ++ (w.text ++ rest) := skipBlanks_cons w.solid _
    rw [hsame]
    exact .cons allBlank_nil hrest

/-- A text has as many characters as words at least. -/
theorem Spaced.length_le {ws : List Word} {text : List Char} (h : Spaced ws text) : ws.length ≤ text.length := by
  induction h with
  | nil => exact Nat.zero_le _
  | cons _ _ ih =>
    simp only [List.length_cons, List.length_append, Word.text]
    omega

/-- What stands after a value: a comma, a bracket that ends something, or the end of the text. -/
def Ends (ws : List Word) : Prop :=
  ∀ w ∈ ws.head?, w = .comma ∨ w = .closeArray ∨ w = .closeObject

theorem ends_nil : Ends [] := nofun

theorem ends_moreItems (items : List Form) (ws : List Word) : Ends (Form.moreItems items ++ ws) := by
  cases items with
  | nil =>
    rintro w ⟨⟩
    exact .inr (.inl rfl)
  | cons v items =>
    rintro w ⟨⟩
    exact .inl rfl

theorem ends_moreMembers (members : List (List Piece × Form)) (ws : List Word) :
    Ends (Form.moreMembers members ++ ws) := by
  cases members with
  | nil =>
    rintro w ⟨⟩
    exact .inr (.inr rfl)
  | cons m members =>
    rintro w ⟨⟩
    exact .inl rfl

/-- What stands after a value cannot belong to it. -/
theorem Ends.delimits {ws : List Word} {text : List Char} (h : Ends ws) (htext : Spaced ws text) :
    Delimits text := by
  cases htext with
  | nil hblanks => exact fun c hc => .inl (hblanks c (List.mem_of_mem_head? hc))
  | @cons blanks rest w ws hblanks _ =>
    cases blanks with
    | cons blank blanks =>
      rintro c ⟨⟩
      exact .inl (hblanks _ List.mem_cons_self)
    | nil =>
      rintro c ⟨⟩
      rcases h w rfl with rfl | rfl | rfl
      · exact .inr (.inl rfl)
      · exact .inr (.inr (.inl rfl))
      · exact .inr (.inr (.inr rfl))

end Json

end Arcade
