/-
This file says how integers are spelled. A numeral is a lone zero or, behind at most
one sign, a row of digits that does not begin with a zero. A loose numeral may
begin with zeros and may put a sign in front of a zero. Reading accepts the
numerals of the integers that fit, and nothing else.
-/

import Stencil.Text.Integer

namespace Stencil

namespace Integer

/-- A text spells an integer without a needless sign in front of zero and without a needless
zero in front of digits. -/
inductive Numeral : Text → Int → Prop where
  | zero : Numeral ['0'] 0
  | plain {row : Text} {value : Nat} (leading : row.head? ≠ some '0')
      (digits : Decimal.value? row = some value) : Numeral row value
  | plus {row : Text} {value : Nat} (leading : row.head? ≠ some '0')
      (digits : Decimal.value? row = some value) : Numeral ('+' :: row) value
  | minus {row : Text} {value : Nat} (leading : row.head? ≠ some '0')
      (digits : Decimal.value? row = some value) : Numeral ('-' :: row) (-value)

/-- A text spells an integer with any row of digits behind at most one sign. -/
inductive LooseNumeral : Text → Int → Prop where
  | plain {row : Text} {value : Nat} (digits : Decimal.value? row = some value) :
      LooseNumeral row value
  | plus {row : Text} {value : Nat} (digits : Decimal.value? row = some value) :
      LooseNumeral ('+' :: row) value
  | minus {row : Text} {value : Nat} (digits : Decimal.value? row = some value) :
      LooseNumeral ('-' :: row) (-value)

theorem magnitude?_eq_some_iff {row : Text} {value : Nat} : magnitude? row = some value ↔
    row.head? ≠ some '0' ∧ Decimal.value? row = some value := by
  rw [magnitude?]
  split <;> simp_all

/-- A row of digits begins with a digit. -/
theorem digit?_head_of_value? {character : Char} {row : Text} {value : Nat}
    (digits : Decimal.value? (character :: row) = some value) :
    Decimal.digit? character ≠ none := by
  intro absent
  simp [Decimal.value?, Decimal.valueFrom?, absent] at digits

/-- What is spelled is what the grammar of numerals says. -/
theorem spelled?_eq_some_iff {text : Text} {value : Int} :
    spelled? text = some value ↔ Numeral text value := by
  constructor
  · intro spelled
    unfold spelled? at spelled
    split at spelled
    · obtain rfl : 0 = value := by simpa using spelled
      exact .zero
    · obtain ⟨magnitude, found, rfl⟩ := Option.map_eq_some_iff.1 spelled
      obtain ⟨leading, digits⟩ := magnitude?_eq_some_iff.1 found
      exact .minus leading digits
    · obtain ⟨magnitude, found, rfl⟩ := Option.map_eq_some_iff.1 spelled
      obtain ⟨leading, digits⟩ := magnitude?_eq_some_iff.1 found
      exact .plus leading digits
    · obtain ⟨magnitude, found, rfl⟩ := Option.map_eq_some_iff.1 spelled
      obtain ⟨leading, digits⟩ := magnitude?_eq_some_iff.1 found
      exact .plain leading digits
  · intro numeral
    cases numeral with
    | zero => decide +kernel
    | minus leading digits =>
      rw [spelled?, magnitude?_eq_some_iff.2 ⟨leading, digits⟩]
      rfl
    | plus leading digits =>
      rw [spelled?, magnitude?_eq_some_iff.2 ⟨leading, digits⟩]
      rfl
    | plain leading digits =>
      cases text with
      | nil => simp [Decimal.value?] at digits
      | cons character row =>
        have isDigit := digit?_head_of_value? digits
        rw [spelled?_cons, magnitude?_eq_some_iff.2 ⟨leading, digits⟩]
        · rfl
        · rintro rfl
          exact isDigit (by decide)
        · rintro rfl
          exact isDigit (by decide)
        · rintro rfl
          exact leading rfl

/-- Reading accepts exactly the numerals of the integers that fit. -/
theorem read?_eq_some_iff {text : Text} {value : Int} :
    read? text = some value ↔ Numeral text value ∧ Fits value := by
  rw [read?, Option.filter_eq_some_iff, spelled?_eq_some_iff, decide_eq_true_eq]

end Integer

end Stencil
