/-
This file compares ways of spelling and of reading an integer. A loose numeral is a
numeral unless it is padded, which is to have a zero in front of more or behind a sign.
Whoever reads a text from the left does not know where an integer ends: it takes the
longest row of digits there is and leaves the rest, and a zero at the front is taken
alone. What is taken so is a numeral, and every numeral is taken in front of a text that
does not go on with a digit.
-/

import Stencil.Text.Blank
import Stencil.Text.Numeral

namespace Stencil

/-! ### Rows of digits -/

namespace Decimal

/-- What has a value as a row of digits consists of digits. -/
theorem isDigit_of_mem_valueFrom? {row : Text} {start value : Nat}
    (digits : valueFrom? start row = some value) : ∀ character ∈ row, character.isDigit := by
  induction row generalizing start with
  | nil => exact fun _ member => absurd member List.not_mem_nil
  | cons head rest inductionHypothesis =>
    obtain ⟨unit, isUnit, restDigits⟩ := Option.bind_eq_some_iff.1 digits
    rw [digit?, Option.ite_none_right_eq_some] at isUnit
    exact List.forall_mem_cons.2 ⟨isUnit.1, inductionHypothesis restDigits⟩

theorem ne_nil_of_value? {row : Text} {value : Nat} (digits : value? row = some value) :
    row ≠ [] := by
  rintro rfl
  contradiction

theorem isDigit_of_mem_value? {row : Text} {value : Nat} (digits : value? row = some value) :
    ∀ character ∈ row, character.isDigit := by
  rw [value?, if_neg (ne_nil_of_value? digits)] at digits
  exact isDigit_of_mem_valueFrom? digits

/-- No digit is blank. -/
theorem isBlank_of_isDigit {character : Char} (digit : character.isDigit) :
    Text.isBlank character = false := by
  have low : 48 ≤ character.toNat := (Char.isDigit_iff_toNat.1 digit).1
  have high : character.toNat ≤ 57 := (Char.isDigit_iff_toNat.1 digit).2
  simp only [Text.isBlank, Text.blankRanges, List.any_cons, List.any_nil]
  simp
  omega

end Decimal

namespace Integer

variable {text row : Text} {value : Int}

/-! ### The characters of a numeral -/

theorem Numeral.ne_nil (numeral : Numeral text value) : text ≠ [] := by
  rintro rfl
  cases numeral with
  | plain leading digits => exact Decimal.ne_nil_of_value? digits rfl

/-- A numeral holds digits and signs. -/
theorem Numeral.isDigit_or_sign (numeral : Numeral text value) :
    ∀ character ∈ text, character.isDigit ∨ character = '+' ∨ character = '-' := by
  cases numeral with
  | zero => exact List.forall_mem_singleton.2 (Or.inl rfl)
  | plain leading digits =>
    exact fun character member => Or.inl (Decimal.isDigit_of_mem_value? digits character member)
  | plus leading digits =>
    refine List.forall_mem_cons.2 ⟨Or.inr (Or.inl rfl), fun character member => ?_⟩
    exact Or.inl (Decimal.isDigit_of_mem_value? digits character member)
  | minus leading digits =>
    refine List.forall_mem_cons.2 ⟨Or.inr (Or.inr rfl), fun character member => ?_⟩
    exact Or.inl (Decimal.isDigit_of_mem_value? digits character member)

/-- No character of a numeral is blank. -/
theorem Numeral.isBlank_eq_false (numeral : Numeral text value) :
    ∀ character ∈ text, Text.isBlank character = false := by
  intro character member
  rcases numeral.isDigit_or_sign character member with digit | rfl | rfl
  · exact Decimal.isBlank_of_isDigit digit
  · decide
  · decide

/-! ### Padded numerals -/

/-- A text has a zero in front of more, or behind a sign. -/
inductive Padded : Text → Prop where
  | front {rest : Text} (nonempty : rest ≠ []) : Padded ('0' :: rest)
  | plus (rest : Text) : Padded ('+' :: '0' :: rest)
  | minus (rest : Text) : Padded ('-' :: '0' :: rest)

theorem Numeral.loose (numeral : Numeral text value) : LooseNumeral text value := by
  cases numeral with
  | zero =>
    have digits : Decimal.value? ['0'] = some 0 := rfl
    exact .plain digits
  | plain leading digits => exact .plain digits
  | plus leading digits => exact .plus digits
  | minus leading digits => exact .minus digits

theorem Numeral.not_padded (numeral : Numeral text value) : ¬ Padded text := by
  intro padded
  cases numeral with
  | zero =>
    cases padded with
    | front nonempty => exact nonempty rfl
  | plain leading digits =>
    cases padded with
    | front nonempty => exact leading rfl
    | plus rest => exact absurd (Decimal.isDigit_of_mem_value? digits '+' (by simp)) (by decide)
    | minus rest => exact absurd (Decimal.isDigit_of_mem_value? digits '-' (by simp)) (by decide)
  | plus leading digits =>
    cases padded with
    | plus rest => exact leading rfl
  | minus leading digits =>
    cases padded with
    | minus rest => exact leading rfl

/-- The numerals are the loose numerals that are not padded. -/
theorem numeral_iff_loose : Numeral text value ↔ LooseNumeral text value ∧ ¬ Padded text := by
  constructor
  · exact fun numeral => ⟨numeral.loose, numeral.not_padded⟩
  · rintro ⟨loose, plain⟩
    cases loose with
    | plain digits =>
      by_cases leading : text.head? = some '0'
      · obtain ⟨rest, rfl⟩ := List.head?_eq_some_iff.1 leading
        cases rest with
        | nil =>
          obtain rfl := Option.some.inj digits
          exact .zero
        | cons character rest => exact absurd (.front (List.cons_ne_nil _ _)) plain
      · exact .plain leading digits
    | plus digits =>
      refine .plus (fun leading => plain ?_) digits
      obtain ⟨rest, rfl⟩ := List.head?_eq_some_iff.1 leading
      exact .plus rest
    | minus digits =>
      refine .minus (fun leading => plain ?_) digits
      obtain ⟨rest, rfl⟩ := List.head?_eq_some_iff.1 leading
      exact .minus rest

/-! ### Reading from the left -/

/-- A text does not go on with a digit. -/
def EndsDigits (text : Text) : Prop :=
  ∀ character ∈ text.head?, character.isDigit = false

/-- The row of digits at the front of a text is the longest one. -/
theorem endsDigits_dropWhile (text : Text) : EndsDigits (text.dropWhile Char.isDigit) := by
  intro character first
  have found := List.head?_dropWhile_not Char.isDigit text
  rwa [Option.mem_def.1 first] at found

theorem EndsDigits.takeWhile_append {rest : Text} (ends : EndsDigits rest)
    (digits : ∀ character ∈ row, character.isDigit) :
    (row ++ rest).takeWhile Char.isDigit = row := by
  rw [List.takeWhile_append_of_pos digits]
  cases rest with
  | nil => exact List.append_nil row
  | cons character behind => rw [List.takeWhile_cons, ends character rfl]; exact List.append_nil row

/-- The front of a text that is read as a numeral: a zero alone, or the longest row of digits
behind at most one sign. -/
def numeralFront : Text → Text
  | '0' :: _ => ['0']
  | '-' :: row => '-' :: row.takeWhile Char.isDigit
  | '+' :: row => '+' :: row.takeWhile Char.isDigit
  | row => row.takeWhile Char.isDigit

/-- The integer at the front of a text, if it is spelled there and fits, and what follows. -/
def take? (text : Text) : Option (Int × Text) :=
  (read? (numeralFront text)).map fun value => (value, text.drop (numeralFront text).length)

theorem exists_eq_numeralFront_append (text : Text) :
    ∃ rest, text = numeralFront text ++ rest ∧ (numeralFront text = ['0'] ∨ EndsDigits rest) := by
  have divided (row : Text) : row = row.takeWhile Char.isDigit ++ row.dropWhile Char.isDigit :=
    List.takeWhile_append_dropWhile.symm
  unfold numeralFront
  split
  · exact ⟨_, rfl, Or.inl rfl⟩
  · rename_i row
    exact ⟨_, congrArg ('-' :: ·) (divided row), Or.inr (endsDigits_dropWhile row)⟩
  · rename_i row
    exact ⟨_, congrArg ('+' :: ·) (divided row), Or.inr (endsDigits_dropWhile row)⟩
  · exact ⟨_, divided text, Or.inr (endsDigits_dropWhile text)⟩

/-- A text that begins with a digit other than zero is read from its row of digits. -/
theorem numeralFront_of_isDigit {character : Char} {rest : Text} (digit : character.isDigit)
    (nonzero : character ≠ '0') :
    numeralFront (character :: rest) = (character :: rest).takeWhile Char.isDigit := by
  unfold numeralFront
  split
  · rename_i same
    exact absurd (List.cons.inj same).1 nonzero
  · rename_i same
    obtain ⟨rfl, -⟩ := List.cons.inj same
    contradiction
  · rename_i same
    obtain ⟨rfl, -⟩ := List.cons.inj same
    contradiction
  · rfl

/-- A numeral is read whole where no digit follows, and a zero is read alone. -/
theorem Numeral.numeralFront_append {rest : Text} (numeral : Numeral text value)
    (ends : text = ['0'] ∨ EndsDigits rest) : numeralFront (text ++ rest) = text := by
  cases numeral with
  | zero => rfl
  | plain leading digits =>
    have allDigits := Decimal.isDigit_of_mem_value? digits
    cases text with
    | nil => exact absurd rfl (Decimal.ne_nil_of_value? digits)
    | cons character row =>
      have nonzero : character ≠ '0' := fun same => leading (congrArg some same)
      have behind := ends.resolve_left fun same => nonzero (List.cons.inj same).1
      rw [List.cons_append, numeralFront_of_isDigit (allDigits _ List.mem_cons_self) nonzero]
      exact behind.takeWhile_append allDigits
  | plus leading digits =>
    have behind := ends.resolve_left (by simp)
    exact congrArg ('+' :: ·) (behind.takeWhile_append (Decimal.isDigit_of_mem_value? digits))
  | minus leading digits =>
    have behind := ends.resolve_left (by simp)
    exact congrArg ('-' :: ·) (behind.takeWhile_append (Decimal.isDigit_of_mem_value? digits))

/-- What is taken from the front of a text is a numeral, as long as it can be. -/
theorem take?_eq_some_iff {rest : Text} : take? text = some (value, rest) ↔
    ∃ front, text = front ++ rest ∧ Numeral front value ∧ Fits value ∧
      (front = ['0'] ∨ EndsDigits rest) := by
  rw [take?, Option.map_eq_some_iff]
  constructor
  · rintro ⟨found, spelled, same⟩
    obtain ⟨rfl, rfl⟩ := Prod.mk.inj same
    obtain ⟨behind, whole, ends⟩ := exists_eq_numeralFront_append text
    obtain ⟨numeral, fits⟩ := read?_eq_some_iff.1 spelled
    have dropped : text.drop (numeralFront text).length = behind :=
      (congrArg (List.drop _) whole).trans List.drop_left
    rw [dropped]
    exact ⟨_, whole, numeral, fits, ends⟩
  · rintro ⟨front, rfl, numeral, fits, ends⟩
    rw [numeral.numeralFront_append ends, List.drop_left]
    exact ⟨value, read?_eq_some_iff.2 ⟨numeral, fits⟩, rfl⟩

end Integer

end Stencil
