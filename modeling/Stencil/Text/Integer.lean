/-
This file writes whole numbers in decimal and reads them back. The written form
has no leading zero and no sign but a minus; the form read may also carry a plus
in front of a number other than zero. Only numbers that fit a signed word of
sixty-four bits are read, so a number that is too large by one is no number.
-/

import Stencil.Text.Basic

namespace Stencil

namespace Decimal

/-! ### Digits -/

/-- The character of a digit. -/
def digit (value : Nat) : Char :=
  Char.ofNat ('0'.toNat + value)

/-- The value of a digit, if the character is one. -/
def digit? (character : Char) : Option Nat :=
  if character.isDigit then some (character.toNat - '0'.toNat) else none

theorem digit?_digit {value : Nat} (small : value < 10) : digit? (digit value) = some value := by
  have cases : value = 0 ∨ value = 1 ∨ value = 2 ∨ value = 3 ∨ value = 4 ∨ value = 5 ∨
      value = 6 ∨ value = 7 ∨ value = 8 ∨ value = 9 := by omega
  rcases cases with rfl | rfl | rfl | rfl | rfl | rfl | rfl | rfl | rfl | rfl <;> decide

/-- The decimal form of a natural number. -/
def digits (value : Nat) : Text :=
  if value < 10 then [digit value] else digits (value / 10) ++ [digit (value % 10)]

/-- The number that a row of digits stands for, the most significant digit first. -/
def valueFrom? (value : Nat) : Text → Option Nat
  | [] => some value
  | character :: rest => (digit? character).bind fun unit => valueFrom? (10 * value + unit) rest

theorem valueFrom?_append (value : Nat) (before after : Text) :
    valueFrom? value (before ++ after) =
      (valueFrom? value before).bind fun middle => valueFrom? middle after := by
  induction before generalizing value with
  | nil => rfl
  | cons character rest inductionHypothesis =>
    simp only [List.cons_append, valueFrom?, Option.bind_assoc, inductionHypothesis]

/-- The value of a row of digits; the empty row has none. -/
def value? (row : Text) : Option Nat :=
  if row = [] then none else valueFrom? 0 row

theorem digits_ne_nil (value : Nat) : digits value ≠ [] := by
  rw [digits]
  split <;> simp

/-- A written number reads back. -/
theorem value?_digits (value : Nat) : value? (digits value) = some value := by
  rw [value?, if_neg (digits_ne_nil value)]
  induction value using digits.induct with
  | case1 value small =>
    rw [digits, if_pos small]
    simp [valueFrom?, digit?_digit small]
  | case2 value large inductionHypothesis =>
    rw [digits, if_neg large, valueFrom?_append, inductionHypothesis]
    have small : value % 10 < 10 := Nat.mod_lt _ (by decide)
    simp only [Option.bind_some, valueFrom?, digit?_digit small, Option.some.injEq]
    omega

/-- Only zero is written with a zero in front. -/
theorem head?_digits {value : Nat} (nonzero : value ≠ 0) : (digits value).head? ≠ some '0' := by
  induction value using digits.induct with
  | case1 value small =>
    rw [digits, if_pos small]
    intro zero
    have same : digit value = '0' := by simpa using zero
    have read := digit?_digit small
    rw [same] at read
    exact nonzero (Option.some.inj read).symm
  | case2 value large inductionHypothesis =>
    have front := inductionHypothesis (by omega)
    rw [digits, if_neg large, List.head?_append]
    cases head : (digits (value / 10)).head? with
    | none => exact absurd (List.head?_eq_none_iff.1 head) (digits_ne_nil _)
    | some character => rwa [head] at front

end Decimal

/-! ### Signed integers of one machine word -/

namespace Integer

/-- The smallest and the largest integer of a signed word of sixty-four bits. -/
def least : Int := -9223372036854775808

@[inherit_doc least]
def greatest : Int := 9223372036854775807

/-- The integer fits a signed word of sixty-four bits. -/
def Fits (value : Int) : Prop :=
  least ≤ value ∧ value ≤ greatest

instance (value : Int) : Decidable (Fits value) :=
  inferInstanceAs (Decidable (_ ∧ _))

/-- The decimal form of an integer: a minus for a negative one, then the digits. -/
def print (value : Int) : Text :=
  if value < 0 then '-' :: Decimal.digits value.natAbs else Decimal.digits value.natAbs

/-- A magnitude other than zero, written without a zero in front. -/
def magnitude? (row : Text) : Option Nat :=
  if row.head? = some '0' then none else Decimal.value? row

/-- The integer a text spells before its size is looked at: a lone zero, or a magnitude
other than zero behind at most one sign. -/
def spelled? : Text → Option Int
  | ['0'] => some 0
  | '-' :: row => (magnitude? row).map fun value => -Int.ofNat value
  | '+' :: row => (magnitude? row).map Int.ofNat
  | row => (magnitude? row).map Int.ofNat

/-- The integer that the whole text spells, if it fits. -/
def read? (text : Text) : Option Int :=
  (spelled? text).filter fun value => Fits value

theorem magnitude?_digits {value : Nat} (nonzero : value ≠ 0) :
    magnitude? (Decimal.digits value) = some value := by
  rw [magnitude?, if_neg (Decimal.head?_digits nonzero), Decimal.value?_digits]

/-- A text that begins with a digit other than zero spells a magnitude. -/
theorem spelled?_cons {character : Char} {row : Text} (minus : character ≠ '-')
    (plus : character ≠ '+') (zero : character ≠ '0') :
    spelled? (character :: row) = (magnitude? (character :: row)).map Int.ofNat := by
  unfold spelled?
  split <;> simp_all

theorem spelled?_print (value : Int) : spelled? (print value) = some value := by
  by_cases zero : value = 0
  · subst zero
    decide +kernel
  · have nonzero : value.natAbs ≠ 0 := by omega
    have magnitude := magnitude?_digits nonzero
    rw [print]
    split
    · rw [spelled?, magnitude, Option.map_some, Int.ofNat_eq_natCast]
      congr 1
      omega
    · have signed : Int.ofNat value.natAbs = value := by
        rw [Int.ofNat_eq_natCast]
        omega
      cases row : Decimal.digits value.natAbs with
      | nil => exact absurd row (Decimal.digits_ne_nil _)
      | cons character rest =>
        rw [row] at magnitude
        have leading : Decimal.digit? character ≠ none := by
          intro absent
          simp [magnitude?, Decimal.value?, Decimal.valueFrom?, absent] at magnitude
        rw [spelled?_cons, magnitude, Option.map_some, signed]
        · rintro rfl
          exact leading (by decide)
        · rintro rfl
          exact leading (by decide)
        · rintro rfl
          exact Decimal.head?_digits nonzero (by rw [row]; rfl)

/-- Every integer that fits is read back from its decimal form. -/
theorem read?_print {value : Int} (fits : Fits value) : read? (print value) = some value := by
  rw [read?, spelled?_print, Option.filter_some, if_pos (by simpa using fits)]

end Integer

end Stencil
