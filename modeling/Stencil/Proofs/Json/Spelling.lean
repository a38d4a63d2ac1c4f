/-
This file says how the content of a JSON string may be spelled. A character stands for itself,
or for what its letter behind a backslash means, or is given by its number, alone or as a pair of
surrogates. The reader of a string accepts exactly these spellings in front of a closing quote, so
a spelling has one content, and what is written between quotes is a spelling of the content that
was to be written, whatever characters it has.
-/

import Stencil.Json.Quoted

namespace Stencil

namespace Json

/-! ### Spellings -/

/-- How one character of a string may be spelled. -/
inductive SpellsCharacter : Text → Char → Prop where
  /-- Any character but a quote, a backslash and the control characters. -/
  | itself {character : Char} (notQuote : character ≠ '"') (notSlash : character ≠ '\\')
      (printable : ¬ character.toNat < 0x20) : SpellsCharacter [character] character
  | letter {letter character : Char} (known : escaped? letter = some character) :
      SpellsCharacter ['\\', letter] character
  /-- Four digits in the base sixteen, no surrogate. -/
  | number {a b c d : Char} {value : Nat} (digits : fourHex? a b c d = some value)
      (notLeading : isLeading value = false) (notTrailing : isTrailing value = false) :
      SpellsCharacter ['\\', 'u', a, b, c, d] (Char.ofNat value)
  | pair {a b c d a' b' c' d' : Char} {leading trailing : Nat}
      (digits : fourHex? a b c d = some leading) (isLeading : isLeading leading)
      (digits' : fourHex? a' b' c' d' = some trailing) (isTrailing : isTrailing trailing) :
      SpellsCharacter ['\\', 'u', a, b, c, d, '\\', 'u', a', b', c', d']
        (pairedCharacter leading trailing)

/-- How the content of a string may be spelled, character by character. -/
inductive SpellsContent : Text → Text → Prop where
  | nil : SpellsContent [] []
  | cons {spelling rest content : Text} {character : Char}
      (first : SpellsCharacter spelling character) (later : SpellsContent rest content) :
      SpellsContent (spelling ++ rest) (character :: content)

/-! ### Reading an escape -/

variable {source rest content : Text} {character : Char}

theorem readHex_eq_ok_iff {value : Nat} : readHex source = .ok (value, rest) ↔
    ∃ a b c d, source = a :: b :: c :: d :: rest ∧ fourHex? a b c d = some value := by
  constructor
  · intro read
    unfold readHex at read
    split at read
    · contradiction
    · split at read
      · rename_i a b c d behind long
        split at read
        · rename_i found digits
          obtain ⟨rfl, rfl⟩ := Prod.mk.inj (Except.ok.inj read)
          exact ⟨a, b, c, d, rfl, digits⟩
        · contradiction
      · contradiction
  · rintro ⟨a, b, c, d, rfl, digits⟩
    have long := Text.length_le_size (a :: b :: c :: d :: rest)
    simp only [List.length_cons] at long
    rw [readHex, if_neg (by omega)]
    simp only [digits]

theorem readTrailing_eq_ok_iff {leading : Nat} :
    readTrailing leading source = .ok (character, rest) ↔
      ∃ a b c d trailing, source = '\\' :: 'u' :: a :: b :: c :: d :: rest ∧
        fourHex? a b c d = some trailing ∧ isTrailing trailing ∧
        pairedCharacter leading trailing = character := by
  constructor
  · intro read
    unfold readTrailing at read
    split at read
    · contradiction
    · split at read
      · contradiction
      · split at read
        · contradiction
        · rename_i trailing behind digits
          split at read
          · rename_i isTrailing
            obtain ⟨rfl, rfl⟩ := Prod.mk.inj (Except.ok.inj read)
            obtain ⟨a, b, c, d, rfl, value⟩ := readHex_eq_ok_iff.1 digits
            exact ⟨a, b, c, d, trailing, rfl, value, isTrailing, rfl⟩
          · contradiction
      · contradiction
    · contradiction
  · rintro ⟨a, b, c, d, trailing, rfl, digits, isTrailing, rfl⟩
    have read : readHex (a :: b :: c :: d :: rest) = .ok (trailing, rest) :=
      readHex_eq_ok_iff.2 ⟨a, b, c, d, rfl, digits⟩
    simp only [readTrailing, read, isTrailing, if_true]

theorem isTrailing_eq_false {value : Nat} (leads : isLeading value) : isTrailing value = false := by
  simp only [isLeading, Bool.and_eq_true, decide_eq_true_eq] at leads
  simp only [isTrailing, Bool.and_eq_false_iff, decide_eq_false_iff_not]
  omega

/-- Behind its backslash an escape is read as it may be spelled. -/
theorem readEscape_eq_ok_iff : readEscape source = .ok (character, rest) ↔
    ∃ spelling, source = spelling ++ rest ∧ SpellsCharacter ('\\' :: spelling) character := by
  constructor
  · intro read
    unfold readEscape at read
    split at read
    · contradiction
    · rename_i letter behind
      split at read
      · rename_i isUnicode
        subst isUnicode
        unfold readUnicode at read
        split at read
        · contradiction
        · rename_i value afterDigits digits
          obtain ⟨a, b, c, d, rfl, number⟩ := readHex_eq_ok_iff.1 digits
          split at read
          · contradiction
          · rename_i notTrailing
            split at read
            · rename_i leads
              obtain ⟨a', b', c', d', trailing, rfl, number', trails, rfl⟩ :=
                readTrailing_eq_ok_iff.1 read
              exact ⟨_, rfl, .pair number leads number' trails⟩
            · rename_i notLeading
              obtain ⟨rfl, rfl⟩ := Prod.mk.inj (Except.ok.inj read)
              exact ⟨['u', a, b, c, d], rfl,
                .number number (eq_false_of_ne_true notLeading) (eq_false_of_ne_true notTrailing)⟩
      · split at read
        · rename_i known
          obtain ⟨rfl, rfl⟩ := Prod.mk.inj (Except.ok.inj read)
          exact ⟨[letter], rfl, .letter known⟩
        · contradiction
  · rintro ⟨spelling, rfl, spells⟩
    cases spells with
    | itself notQuote notSlash printable => exact absurd rfl notSlash
    | letter known =>
      rename_i letter
      have notUnicode : letter ≠ 'u' := by
        rintro rfl
        contradiction
      simp only [List.cons_append, List.nil_append, readEscape, if_neg notUnicode, known]
    | number digits notLeading notTrailing =>
      rename_i a b c d value
      have read : readHex (a :: b :: c :: d :: rest) = .ok (value, rest) :=
        readHex_eq_ok_iff.2 ⟨a, b, c, d, rfl, digits⟩
      simp only [List.cons_append, List.nil_append, readEscape, if_true, readUnicode, read,
        notLeading, notTrailing, Bool.false_eq_true, if_false]
    | pair digits leads digits' trails =>
      rename_i a b c d a' b' c' d' leading trailing
      have read : readHex (a :: b :: c :: d :: '\\' :: 'u' :: a' :: b' :: c' :: d' :: rest) =
          .ok (leading, '\\' :: 'u' :: a' :: b' :: c' :: d' :: rest) :=
        readHex_eq_ok_iff.2 ⟨a, b, c, d, rfl, digits⟩
      have readPair : readTrailing leading ('\\' :: 'u' :: a' :: b' :: c' :: d' :: rest) =
          .ok (pairedCharacter leading trailing, rest) :=
        readTrailing_eq_ok_iff.2 ⟨a', b', c', d', trailing, rfl, digits', trails, rfl⟩
      simp only [List.cons_append, List.nil_append, readEscape, if_true, readUnicode, read,
        isTrailing_eq_false leads, leads, Bool.false_eq_true, if_false, readPair]

/-! ### Reading a string -/

theorem map_eq_ok_iff {Item Other Fault : Type} {change : Item → Other}
    {result : Except Fault Item} {other : Other} :
    result.map change = .ok other ↔ ∃ item, result = .ok item ∧ change item = other := by
  cases result with
  | error fault => simp [Except.map]
  | ok item => simp [Except.map]

theorem readString_of_readEscape (escape : readEscape source = .ok (character, rest)) :
    readString ('\\' :: source) =
      (readString rest).map fun read => (character :: read.1, read.2) := by
  rw [readString, if_neg (by decide), if_pos rfl]
  split
  · rename_i fault found
    rw [escape] at found
    contradiction
  · rename_i meant later found
    rw [escape] at found
    obtain ⟨rfl, rfl⟩ := Prod.mk.inj (Except.ok.inj found)
    rfl

/-- A character spelled at the front of a text is read. -/
theorem SpellsCharacter.readString_append {spelling : Text}
    (spells : SpellsCharacter spelling character) (later : Text) :
    readString (spelling ++ later) =
      (readString later).map fun read => (character :: read.1, read.2) := by
  cases spells with
  | itself notQuote notSlash printable =>
    rw [List.cons_append, List.nil_append, readString, if_neg notQuote, if_neg notSlash,
      if_neg printable]
  | letter known =>
    exact readString_of_readEscape (readEscape_eq_ok_iff.2 ⟨_, rfl, .letter known⟩)
  | number digits notLeading notTrailing =>
    exact readString_of_readEscape
      (readEscape_eq_ok_iff.2 ⟨_, rfl, .number digits notLeading notTrailing⟩)
  | pair digits leads digits' trails =>
    exact readString_of_readEscape
      (readEscape_eq_ok_iff.2 ⟨_, rfl, .pair digits leads digits' trails⟩)

/-- A string is read as its content may be spelled, up to the closing quote. -/
theorem readString_eq_ok_iff : readString source = .ok (content, rest) ↔
    ∃ spelling, source = spelling ++ '"' :: rest ∧ SpellsContent spelling content := by
  constructor
  · intro read
    fun_induction readString source generalizing content with
    | case1 => contradiction
    | case2 behind =>
      obtain ⟨rfl, rfl⟩ := Prod.mk.inj (Except.ok.inj read)
      exact ⟨[], rfl, .nil⟩
    | case3 => contradiction
    | case4 behind meant later escape _ inductionHypothesis =>
      obtain ⟨⟨inner, left⟩, onward, same⟩ := map_eq_ok_iff.1 read
      obtain ⟨rfl, rfl⟩ := Prod.mk.inj same
      obtain ⟨first, rfl, spells⟩ := readEscape_eq_ok_iff.1 escape
      obtain ⟨spelling, rfl, later⟩ := inductionHypothesis onward
      exact ⟨'\\' :: first ++ spelling, by simp, .cons spells later⟩
    | case5 => contradiction
    | case6 character behind notQuote notSlash printable inductionHypothesis =>
      obtain ⟨⟨inner, left⟩, onward, same⟩ := map_eq_ok_iff.1 read
      obtain ⟨rfl, rfl⟩ := Prod.mk.inj same
      obtain ⟨spelling, rfl, later⟩ := inductionHypothesis onward
      exact ⟨character :: spelling, rfl, .cons (.itself notQuote notSlash printable) later⟩
  · rintro ⟨spelling, rfl, spells⟩
    induction spells with
    | nil => rw [List.nil_append, readString, if_pos rfl]
    | cons first _ inductionHypothesis =>
      rw [List.append_assoc, first.readString_append, inductionHypothesis]
      rfl

/-- A spelling has one content. -/
theorem SpellsContent.unique {spelling content' : Text} (spells : SpellsContent spelling content)
    (again : SpellsContent spelling content') : content = content' := by
  have read : readString (spelling ++ ['"']) = .ok (content, []) :=
    readString_eq_ok_iff.2 ⟨spelling, rfl, spells⟩
  rw [readString_eq_ok_iff.2 ⟨spelling, rfl, again⟩] at read
  exact (Prod.mk.inj (Except.ok.inj read)).1.symm

end Json

end Stencil
