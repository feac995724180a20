import Arcade.Json.Reader
import Arcade.Proofs.Json.Form

/-!
# `Arcade.Proofs.Json.Pass` — words are read and values are passed over

What the readers of single words and the functions that pass over values do with the words of a form, with any
blanks between them. A string is read if it is a text; any value at all can be passed over, however deep it is,
whatever its numbers and whatever halves of surrogate pairs its strings hold.

## Contents
- `Json.Leaves`, `Json.Gives`: what a reader does where some words are left after it.
- `stringBody_pieces`, `passString_pieces`: strings.
- `follow_comma`, `follow_close`, `colon_word`, `openName_word`: what stands between values.
- `passValue_form`, `passOver_form`: any value is passed over.
-/

namespace Arcade

namespace Json

/-- What is left of a text holds some words. -/
def Leaves (ws : List Word) (result : Except Fault (List Char)) : Prop :=
  ∃ rest, Spaced ws rest ∧ result = .ok rest

/-- A reader gives a value and leaves some words, or it finds a fault where there is no value to give. -/
def Gives {α : Type} (ws : List Word) (result : Except Fault (α × List Char)) : Option α → Prop
  | some a => ∃ rest, Spaced ws rest ∧ result = .ok (a, rest)
  | none => ∃ fault, result = .error fault

variable {α β : Type} {ws : List Word} {result : Except Fault (α × List Char)} {o : Option α}

/-- What is made of the thing read is made of the thing given. -/
theorem Gives.map (h : Gives ws result o) (f : α → β) :
    Gives ws (result.map fun (a, rest) => (f a, rest)) (o.map f) := by
  cases o with
  | none =>
    obtain ⟨fault, rfl⟩ := h
    exact ⟨fault, rfl⟩
  | some a =>
    obtain ⟨rest, hrest, rfl⟩ := h
    exact ⟨rest, hrest, rfl⟩

/-- A reader that goes on where another stops gives what it makes of what that gives. -/
theorem Gives.bind (h : Gives ws result o) {later : List Word}
    {next : α × List Char → Except Fault (β × List Char)} {then? : α → Option β}
    (hnext : ∀ a rest, Spaced ws rest → Gives later (next (a, rest)) (then? a)) :
    Gives later (result >>= next) (o.bind then?) := by
  cases o with
  | none =>
    obtain ⟨fault, rfl⟩ := h
    exact ⟨fault, rfl⟩
  | some a =>
    obtain ⟨rest, hrest, rfl⟩ := h
    exact hnext a rest hrest

/-- A reader of one thing that goes on where another was read. -/
theorem Leaves.bind {passed : Except Fault (List Char)} (h : Leaves ws passed) {later : List Word}
    {next : List Char → Except Fault (β × List Char)} {o : Option β}
    (hnext : ∀ rest, Spaced ws rest → Gives later (next rest) o) : Gives later (passed >>= next) o := by
  obtain ⟨rest, hrest, rfl⟩ := h
  exact hnext rest hrest

/-! ## Strings -/

theorem letter_ne_u (e : Escape) : e.letter ≠ 'u' := by
  cases e <;> decide

theorem hexValue?_char (d : HexDigit) : hexValue? d.char = some d.value.val := by
  have hall : ∀ (value : Fin 16) (capital : Bool),
      hexValue? (HexDigit.char ⟨value, capital⟩) = some value.val := by
    decide
  exact hall d.value d.capital

theorem hexWord?_unit (a b c d : HexDigit) :
    hexWord? a.char b.char c.char d.char = some (unitValue a b c d) := by
  unfold hexWord?
  rw [hexValue?_char, hexValue?_char, hexValue?_char, hexValue?_char]
  rfl

theorem Gives.pushChar {result : Except Fault (List Char × List Char)} {o : Option (List Char)}
    (h : Gives ws result o) (c : Char) : Gives ws (pushChar c result) (o.map (c :: ·)) := by
  cases o with
  | none =>
    obtain ⟨fault, rfl⟩ := h
    exact ⟨fault, rfl⟩
  | some cs =>
    obtain ⟨rest, hrest, rfl⟩ := h
    exact ⟨rest, hrest, rfl⟩

theorem stringBody_plain {c : Char} (h : c ≠ '"' ∧ c ≠ '\\' ∧ 32 ≤ c.toNat) (cs : List Char) :
    stringBody (c :: cs) = Json.pushChar c (stringBody cs) := by
  obtain ⟨hquote, hbackslash, hlarge⟩ := h
  rw [stringBody, if_neg (Nat.not_lt.mpr hlarge)]
  · exact hquote
  · exact fun h _ => hbackslash h
  · exact fun _ _ _ _ _ h _ => hbackslash h
  · exact fun _ h _ => hbackslash h
  · exact fun _ _ h _ => hbackslash h

theorem stringBody_letter (e : Escape) (cs : List Char) :
    stringBody ('\\' :: e.letter :: cs) = Json.pushChar e.char (stringBody cs) := by
  cases e <;> rfl

/-- A number that is no half of a surrogate pair is a character. -/
theorem stringBody_unit {a b c d : HexDigit} (htrailing : isTrailing (unitValue a b c d) = false)
    (hleading : isLeading (unitValue a b c d) = false) (cs : List Char) :
    stringBody ((Piece.unit a b c d).text ++ cs) =
      Json.pushChar (Char.ofNat (unitValue a b c d)) (stringBody cs) := by
  show stringBody ('\\' :: 'u' :: a.char :: b.char :: c.char :: d.char :: cs) = _
  rw [stringBody, hexWord?_unit]
  dsimp only
  rw [htrailing, hleading, if_neg Bool.false_ne_true, if_neg Bool.false_ne_true]

/-- The second half of a pair does not come first. -/
theorem stringBody_trailing {a b c d : HexDigit} (h : isTrailing (unitValue a b c d) = true) (cs : List Char) :
    stringBody ((Piece.unit a b c d).text ++ cs) = .error .malformed := by
  show stringBody ('\\' :: 'u' :: a.char :: b.char :: c.char :: d.char :: cs) = _
  rw [stringBody, hexWord?_unit]
  exact if_pos h

theorem not_isTrailing_of_isLeading {n : Nat} (h : isLeading n = true) : isTrailing n = false := by
  unfold isLeading at h
  unfold isTrailing
  rw [Bool.and_eq_true, decide_eq_true_eq, decide_eq_true_eq] at h
  rw [Bool.and_eq_false_iff, decide_eq_false_iff_not]
  left
  omega

/-- After the first half of a pair, another number must be the second half. -/
theorem stringBody_leading_unit {a b c d a' b' c' d' : HexDigit} (h : isLeading (unitValue a b c d) = true)
    (cs : List Char) :
    stringBody ((Piece.unit a b c d).text ++ ((Piece.unit a' b' c' d').text ++ cs)) =
      if isTrailing (unitValue a' b' c' d') then
        Json.pushChar (joinPair (unitValue a b c d) (unitValue a' b' c' d')) (stringBody cs)
      else .error .malformed := by
  show stringBody ('\\' :: 'u' :: a.char :: b.char :: c.char :: d.char ::
    '\\' :: 'u' :: a'.char :: b'.char :: c'.char :: d'.char :: cs) = _
  rw [stringBody, hexWord?_unit]
  dsimp only
  rw [not_isTrailing_of_isLeading h, h, if_neg Bool.false_ne_true, if_pos rfl]
  simp only [hexWord?_unit]

/-- After the first half of a pair, nothing but a number may stand. -/
theorem stringBody_leading_other {a b c d : HexDigit} (h : isLeading (unitValue a b c d) = true) {cs : List Char}
    (hcs : ∀ rest, cs ≠ '\\' :: 'u' :: rest) :
    ∃ fault, stringBody ((Piece.unit a b c d).text ++ cs) = .error fault := by
  show ∃ fault, stringBody ('\\' :: 'u' :: a.char :: b.char :: c.char :: d.char :: cs) = _
  rw [stringBody, hexWord?_unit]
  dsimp only
  rw [not_isTrailing_of_isLeading h, h, if_neg Bool.false_ne_true, if_pos rfl]
  split
  · exact ⟨_, rfl⟩
  · exact ⟨_, rfl⟩
  · exact absurd rfl (hcs _)
  · exact absurd rfl (hcs _)
  · exact ⟨_, rfl⟩

/-- **A string is read for its characters**, if the halves of surrogate pairs in it belong together. -/
theorem stringBody_pieces (pieces : List Piece) {rest : List Char} (hrest : Spaced ws rest) :
    Gives ws (stringBody (pieces.flatMap Piece.text ++ '"' :: rest)) (characters? pieces) := by
  fun_induction characters? pieces with
  | case1 => exact ⟨rest, hrest, rfl⟩
  | case2 c h pieces ih =>
    rw [List.flatMap_cons, List.append_assoc]
    show Gives ws (stringBody (c :: (pieces.flatMap Piece.text ++ '"' :: rest))) _
    rw [stringBody_plain h]
    exact ih.pushChar c
  | case3 e pieces ih =>
    rw [List.flatMap_cons, List.append_assoc]
    show Gives ws (stringBody ('\\' :: e.letter :: (pieces.flatMap Piece.text ++ '"' :: rest))) _
    rw [stringBody_letter]
    exact ih.pushChar e.char
  | case4 a b c d pieces htrailing =>
    rw [List.flatMap_cons, List.append_assoc, stringBody_trailing htrailing]
    exact ⟨_, rfl⟩
  | case5 a b c d _ hleading a' b' c' d' pieces htrailing ih =>
    rw [List.flatMap_cons, List.flatMap_cons, List.append_assoc, List.append_assoc,
      stringBody_leading_unit hleading, if_pos htrailing]
    exact ih.pushChar _
  | case6 a b c d _ hleading a' b' c' d' pieces htrailing =>
    rw [List.flatMap_cons, List.flatMap_cons, List.append_assoc, List.append_assoc,
      stringBody_leading_unit hleading, if_neg htrailing]
    exact ⟨_, rfl⟩
  | case7 a b c d pieces _ hleading hother =>
    rw [List.flatMap_cons, List.append_assoc]
    apply stringBody_leading_other hleading
    intro text htext
    rcases pieces with _ | ⟨piece, pieces⟩
    · cases htext
    · cases piece with
      | plain c h => exact absurd (List.cons.inj htext).1 h.2.1
      | escape e => exact absurd (List.cons.inj (List.cons.inj htext).2).1 (letter_ne_u e)
      | unit a' b' c' d' => exact hother a' b' c' d' pieces rfl
  | case8 a b c d pieces htrailing hleading ih =>
    rw [List.flatMap_cons, List.append_assoc,
      stringBody_unit (Bool.eq_false_iff.mpr htrailing) (Bool.eq_false_iff.mpr hleading)]
    exact ih.pushChar _

theorem passString_plain {c : Char} (h : c ≠ '"' ∧ c ≠ '\\' ∧ 32 ≤ c.toNat) (cs : List Char) :
    passString (c :: cs) = passString cs := by
  obtain ⟨hquote, hbackslash, hlarge⟩ := h
  rw [passString, if_neg (Nat.not_lt.mpr hlarge)]
  · exact hquote
  · exact fun h _ => hbackslash h
  · exact fun _ _ _ _ _ h _ => hbackslash h
  · exact fun _ h _ => hbackslash h
  · exact fun _ _ h _ => hbackslash h

/-- **Any string is passed over**, whether or not it is a text. -/
theorem passString_pieces (pieces : List Piece) (rest : List Char) :
    passString (pieces.flatMap Piece.text ++ '"' :: rest) = .ok rest := by
  induction pieces with
  | nil => rfl
  | cons piece pieces ih =>
    rw [List.flatMap_cons, List.append_assoc, ← ih]
    cases piece with
    | plain c h => exact passString_plain h _
    | escape e => cases e <;> rfl
    | unit a b c d =>
      show passString ('\\' :: 'u' :: a.char :: b.char :: c.char :: d.char :: _) = _
      rw [passString, hexWord?_unit]
      rfl

/-! ## Single words -/

variable {text : List Char}

theorem word_append (letters rest : List Char) : word letters (letters ++ rest) = .ok rest := by
  induction letters with
  | nil => rfl
  | cons l letters ih =>
    show (if l = l then word letters (letters ++ rest) else _) = _
    rw [if_pos rfl, ih]

theorem follow_comma (bracket : Char) (h : Spaced (.comma :: ws) text) :
    ∃ rest, Spaced ws rest ∧ follow bracket text = .more rest := by
  obtain ⟨rest, hrest, hskip⟩ := h.skip_char
  refine ⟨rest, hrest, ?_⟩
  unfold follow
  rw [hskip]
  rfl

/-- The bracket that ends a container. -/
theorem follow_close {bracket : Char} {hbracket : isBlank bracket = false} (hcomma : bracket ≠ ',')
    (h : Spaced (⟨bracket, [], hbracket⟩ :: ws) text) :
    ∃ rest, Spaced ws rest ∧ follow bracket text = .close rest := by
  obtain ⟨rest, hrest, hskip⟩ := h.skip_char
  refine ⟨rest, hrest, ?_⟩
  unfold follow
  rw [hskip]
  show (if bracket = ',' then _ else if bracket = bracket then _ else _) = _
  rw [if_neg hcomma, if_pos rfl]

theorem colon_word (h : Spaced (.colon :: ws) text) : Leaves ws (colon text) := by
  obtain ⟨rest, hrest, hskip⟩ := h.skip_char
  refine ⟨rest, hrest, ?_⟩
  unfold colon
  rw [hskip]
  rfl

theorem openName_word {pieces : List Piece} (h : Spaced (.string pieces :: ws) text) :
    ∃ rest, Spaced ws rest ∧ openName text = .ok (pieces.flatMap Piece.text ++ '"' :: rest) := by
  obtain ⟨rest, hrest, hskip⟩ := h.skip
  refine ⟨rest, hrest, ?_⟩
  unfold openName
  rw [hskip]
  show Except.ok ((pieces.flatMap Piece.text ++ ['"']) ++ rest) = _
  rw [List.append_assoc]
  rfl

/-! ## Values -/

/-- What begins as a number is passed over as one. -/
theorem passValue_eq_passNumber {c : Char} {cs : List Char} (hskip : skipBlanks text = c :: cs)
    (hc : c = '-' ∨ c.isDigit = true) (fuel : Nat) : passValue (fuel + 1) text = passNumber (c :: cs) := by
  have hkind := kindOf?_number hc
  unfold passValue
  rw [hskip]
  split
  · next heq => cases heq
  · next heq => exact absurd ((List.cons.inj heq).1 ▸ hkind) (by decide)
  · next heq => exact absurd ((List.cons.inj heq).1 ▸ hkind) (by decide)
  · next heq => exact absurd ((List.cons.inj heq).1 ▸ hkind) (by decide)
  · next heq => exact absurd ((List.cons.inj heq).1 ▸ hkind) (by decide)
  · next heq => exact absurd ((List.cons.inj heq).1 ▸ hkind) (by decide)
  · next heq => exact absurd ((List.cons.inj heq).1 ▸ hkind) (by decide)
  · next heq =>
    cases heq
    exact if_pos hc

/-- A number is passed over, whatever its value. -/
theorem passValue_number (n : NumberForm) (hends : Ends ws) (h : Spaced (.number n :: ws) text) (fuel : Nat) :
    Leaves ws (passValue (fuel + 1) text) := by
  obtain ⟨rest, hrest, hskip⟩ := h.skip
  refine ⟨rest, hrest, ?_⟩
  rw [passValue_eq_passNumber hskip (first_number n)]
  unfold passNumber
  rw [numeral_number n (hends.delimits hrest)]

/-- A value of one word is passed over. -/
theorem passValue_word {v : Form} (hv : v.kind ≠ .array ∧ v.kind ≠ .object) (hends : Ends ws)
    (h : Spaced (v.words ++ ws) text) (fuel : Nat) : Leaves ws (passValue (fuel + 1) text) := by
  cases v with
  | null =>
    obtain ⟨rest, hrest, hskip⟩ := h.skip
    refine ⟨rest, hrest, ?_⟩
    unfold passValue
    rw [hskip]
    exact word_append _ _
  | bool b =>
    obtain ⟨rest, hrest, hskip⟩ := h.skip
    refine ⟨rest, hrest, ?_⟩
    unfold passValue
    rw [hskip]
    cases b <;> exact word_append _ _
  | number n => exact passValue_number n hends h fuel
  | string pieces =>
    obtain ⟨rest, hrest, hskip⟩ := h.skip
    refine ⟨rest, hrest, ?_⟩
    unfold passValue
    rw [hskip]
    show passString ((pieces.flatMap Piece.text ++ ['"']) ++ rest) = _
    rw [List.append_assoc]
    exact passString_pieces pieces rest
  | array items => exact absurd rfl hv.1
  | object members => exact absurd rfl hv.2

/-- After its bracket, an array ends or has items. -/
theorem passValue_array {rest : List Char} (hskip : skipBlanks text = '[' :: rest) (fuel : Nat) :
    passValue (fuel + 1) text = match skipBlanks rest with
      | ']' :: rest => .ok rest
      | rest => passItems fuel rest := by
  unfold passValue
  rw [hskip]
  rfl

/-- After its bracket, an object ends or has members. -/
theorem passValue_object {rest : List Char} (hskip : skipBlanks text = '\x7b' :: rest) (fuel : Nat) :
    passValue (fuel + 1) text = match skipBlanks rest with
      | '\x7d' :: rest => .ok rest
      | rest => passMembers fuel rest := by
  unfold passValue
  rw [hskip]
  rfl

theorem passValue_emptyArray (h : Spaced (.openArray :: .closeArray :: ws) text) (fuel : Nat) :
    Leaves ws (passValue (fuel + 1) text) := by
  obtain ⟨rest, hrest, hopen⟩ := h.skip_char
  obtain ⟨rest', hrest', hclose⟩ := hrest.skip_char
  refine ⟨rest', hrest', ?_⟩
  rw [passValue_array hopen, hclose]
  rfl

theorem passValue_emptyObject (h : Spaced (.openObject :: .closeObject :: ws) text) (fuel : Nat) :
    Leaves ws (passValue (fuel + 1) text) := by
  obtain ⟨rest, hrest, hopen⟩ := h.skip_char
  obtain ⟨rest', hrest', hclose⟩ := hrest.skip_char
  refine ⟨rest', hrest', ?_⟩
  rw [passValue_object hopen, hclose]
  rfl

/-- An array whose first item is there is passed over with its items. -/
theorem passValue_openArray {v : Form} {more : List Word} (h : Spaced (.openArray :: (v.words ++ more)) text)
    (fuel : Nat) : ∃ rest, Spaced (v.words ++ more) rest ∧ passValue (fuel + 1) text = passItems fuel rest := by
  obtain ⟨rest, hrest, hopen⟩ := h.skip_char
  obtain ⟨c, cs, hfirst, hkind⟩ := hrest.skip_value
  have hclose : c ≠ ']' := by
    rintro rfl
    cases hkind
  refine ⟨_, hrest.skipBlanks, ?_⟩
  rw [passValue_array hopen, hfirst]
  split
  · next heq => exact absurd (List.cons.inj heq).1 hclose
  · rfl

/-- An object whose first member is there is passed over with its members. -/
theorem passValue_openObject {name : List Piece} {more : List Word}
    (h : Spaced (.openObject :: .string name :: more) text) (fuel : Nat) :
    ∃ rest, Spaced (.string name :: more) rest ∧ passValue (fuel + 1) text = passMembers fuel rest := by
  obtain ⟨rest, hrest, hopen⟩ := h.skip_char
  obtain ⟨_, -, hquote⟩ := hrest.skip
  refine ⟨_, hrest.skipBlanks, ?_⟩
  rw [passValue_object hopen, hquote]
  rfl

-- The induction is on the steps that are left. A bracket takes a word and a step, and so does the way from an
-- item to the next, so that twice as many steps as words are enough for every part.
mutual

/-- A value is passed over in two steps for each of its words, or fewer. -/
theorem passValue_form {ws : List Word} (hends : Ends ws) : ∀ (fuel : Nat) (v : Form) (text : List Char),
    2 * v.words.length ≤ fuel → Spaced (v.words ++ ws) text → Leaves ws (passValue fuel text)
  | 0, v, text, hfuel, _ => by
    have hwords := v.length_words_pos
    omega
  | fuel + 1, v, text, hfuel, h => by
    cases v with
    | array items =>
      rcases items with _ | ⟨item, items⟩
      · exact passValue_emptyArray h fuel
      · simp only [Form.words, List.length_cons, List.length_append] at hfuel
        rw [Form.words, List.cons_append, List.append_assoc] at h
        obtain ⟨rest, hrest, heq⟩ := passValue_openArray h fuel
        rw [heq]
        exact passItems_form fuel item items rest (by omega) hrest
    | object members =>
      rcases members with _ | ⟨⟨name, v⟩, members⟩
      · exact passValue_emptyObject h fuel
      · simp only [Form.words, List.length_cons, List.length_append] at hfuel
        rw [Form.words, List.cons_append, List.cons_append, List.cons_append, List.append_assoc] at h
        obtain ⟨rest, hrest, heq⟩ := passValue_openObject h fuel
        rw [heq]
        exact passMembers_form fuel name v members rest (by omega) hrest
    | _ => exact passValue_word ⟨Kind.noConfusion, Kind.noConfusion⟩ hends h fuel

/-- The items of an array are passed over one after the other. -/
theorem passItems_form {ws : List Word} : ∀ (fuel : Nat) (v : Form) (items : List Form) (text : List Char),
    2 * (v.words.length + (Form.moreItems items).length) ≤ fuel →
      Spaced (v.words ++ (Form.moreItems items ++ ws)) text → Leaves ws (passItems fuel text)
  | 0, v, items, text, hfuel, _ => by
    have hwords := v.length_words_pos
    omega
  | fuel + 1, v, items, text, hfuel, h => by
    have hmore : 0 < (Form.moreItems items).length := by cases items <;> exact Nat.succ_pos _
    obtain ⟨rest, hrest, hvalue⟩ :=
      passValue_form (ends_moreItems items ws) fuel v text (by omega) h
    unfold passItems
    rw [hvalue]
    dsimp only
    cases items with
    | nil =>
      obtain ⟨rest, hrest, hfollow⟩ := follow_close (by decide) hrest
      rw [hfollow]
      exact ⟨rest, hrest, rfl⟩
    | cons item items =>
      obtain ⟨rest, hrest, hfollow⟩ := follow_comma ']' hrest
      simp only [Form.moreItems, List.length_cons, List.length_append] at hfuel
      rw [hfollow]
      replace hrest : Spaced ((item.words ++ Form.moreItems items) ++ ws) rest := hrest
      rw [List.append_assoc] at hrest
      exact passItems_form fuel item items rest (by omega) hrest

/-- The members of an object are passed over one after the other. -/
theorem passMembers_form {ws : List Word} : ∀ (fuel : Nat) (name : List Piece) (v : Form)
    (members : List (List Piece × Form)) (text : List Char),
    2 * (v.words.length + (Form.moreMembers members).length) ≤ fuel →
      Spaced (.string name :: .colon :: (v.words ++ (Form.moreMembers members ++ ws))) text →
        Leaves ws (passMembers fuel text)
  | 0, name, v, members, text, hfuel, _ => by
    have hwords := v.length_words_pos
    omega
  | fuel + 1, name, v, members, text, hfuel, h => by
    have hmore : 0 < (Form.moreMembers members).length := by cases members <;> exact Nat.succ_pos _
    obtain ⟨rest, hrest, hopen⟩ := openName_word h
    obtain ⟨rest, hrest, hcolon⟩ := colon_word hrest
    obtain ⟨rest, hrest, hvalue⟩ :=
      passValue_form (ends_moreMembers members ws) fuel v rest (by omega) hrest
    unfold passMembers
    rw [hopen]
    dsimp only
    rw [passString_pieces]
    dsimp only
    rw [hcolon]
    dsimp only
    rw [hvalue]
    dsimp only
    cases members with
    | nil =>
      obtain ⟨rest, hrest, hfollow⟩ := follow_close (by decide) hrest
      rw [hfollow]
      exact ⟨rest, hrest, rfl⟩
    | cons m members =>
      obtain ⟨name, v⟩ := m
      obtain ⟨rest, hrest, hfollow⟩ := follow_comma '\x7d' hrest
      simp only [Form.moreMembers, List.length_cons, List.length_append] at hfuel
      rw [hfollow]
      replace hrest : Spaced (.string name :: .colon :: ((v.words ++ Form.moreMembers members) ++ ws)) rest := hrest
      rw [List.append_assoc] at hrest
      exact passMembers_form fuel name v members rest (by omega) hrest

end

/-- **Any value is passed over**, up to what comes after it: however it is nested, however large its numbers are,
and whether or not its strings are texts. -/
theorem passOver_form {v : Form} (hends : Ends ws) (h : Spaced (v.words ++ ws) text) : Leaves ws (passOver text) := by
  have hlength := h.length_le
  rw [List.length_append] at hlength
  refine passValue_form hends (stepsFor text) v text ?_ h
  unfold stepsFor
  omega

end Json

end Arcade
