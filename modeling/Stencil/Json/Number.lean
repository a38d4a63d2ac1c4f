/-
This file reads JSON numbers. The spelling decides first: a number has an integer
part without a leading zero, may have a fraction and may have an exponent, each
with one digit at least. A well-spelled number is refused when it has no double:
the digits that fit a word of sixty-four bits make an integer, the others count
as powers of ten or are dropped, and the product of that integer and the power,
each rounded to a double, must stay below the point from which doubles round to
infinity. No floating point is needed for that test, because only products of
whole numbers can be too large.
-/

import Stencil.Json.Fault
import Stencil.Text.Integer

namespace Stencil

namespace Json

/-- The digits of a number, part by part. -/
structure NumberParts where
  integer : Text
  fraction : Text
  /-- Whether the exponent is negative, and its digits. -/
  exponent : Option (Bool × Text)
  deriving DecidableEq, Repr

namespace NumberParts

/-! ### Spelling -/

/-- The run of digits at the front of a text. -/
def digits (source : Text) : Text :=
  source.takeWhile Char.isDigit

/-- The text behind the run of digits at its front. -/
def afterDigits (source : Text) : Text :=
  source.dropWhile Char.isDigit

/-- The fault of a text that should begin with a digit. -/
def missingDigit (source : Text) : Fault :=
  .within (if source.isEmpty then .endOfValue else .invalidNumber) source

/-- The integer part at the front of a text. -/
def readInteger (source : Text) : Except Fault (Text × Text) :=
  if digits source = [] then .error (missingDigit source)
  else if (digits source).head? = some '0' ∧ 1 < (digits source).length then
    .error (.within .invalidNumber source.tail)
  else .ok (digits source, afterDigits source)

/-- The fraction at the front of a text, without digits when there is none. -/
def readFraction (source : Text) : Except Fault (Text × Text) :=
  match source with
  | '.' :: inside =>
    if digits inside = [] then .error (missingDigit inside)
    else .ok (digits inside, afterDigits inside)
  | _ => .ok ([], source)

/-- The sign in front of the digits of an exponent, and the text behind it. -/
def takeSign : Text → Bool × Text
  | '+' :: rest => (false, rest)
  | '-' :: rest => (true, rest)
  | source => (false, source)

/-- Whether a character opens an exponent. -/
def opensExponent (character : Char) : Bool :=
  character = 'e' || character = 'E'

/-- The exponent at the front of a text, if there is one. -/
def readExponent (source : Text) : Except Fault (Option (Bool × Text) × Text) :=
  match source with
  | [] => .ok (none, source)
  | character :: signed =>
    if opensExponent character then
      let (negative, inside) := takeSign signed
      if digits inside = [] then .error (missingDigit inside)
      else .ok (some (negative, digits inside), afterDigits inside)
    else .ok (none, source)

/-- The parts of the number at the front of a text, behind its sign. -/
def read (source : Text) : Except Fault (NumberParts × Text) :=
  match readInteger source with
  | .error fault => .error fault
  | .ok (integer, afterInteger) =>
    match readFraction afterInteger with
    | .error fault => .error fault
    | .ok (fraction, afterFraction) =>
      match readExponent afterFraction with
      | .error fault => .error fault
      | .ok (exponent, rest) => .ok (⟨integer, fraction, exponent⟩, rest)

/-! ### Size -/

/-- The first digits that together make a number below a limit, going on from a value,
and how many digits are left over. -/
def absorb (limit value : Nat) : Text → Nat × Nat
  | [] => (value, 0)
  | character :: rest =>
    let next := 10 * value + (Decimal.digit? character).getD 0
    if next < limit then absorb limit next rest else (value, rest.length + 1)

/-- The whole number that the digits of a number make as far as they fit sixty-four bits,
and the power of ten it is to be multiplied with before the exponent counts. -/
def scaled (parts : NumberParts) : Nat × Int :=
  let (whole, powers) := absorb (Nat.pow 2 64) 0 parts.integer
  let (significand, dropped) := absorb (Nat.pow 2 64) whole parts.fraction
  (significand, (powers : Int) - ((parts.fraction.length - dropped : Nat) : Int))

/-- A whole number rounded to fifty-three binary digits, a tie to the even neighbour. -/
def roundToDouble (value : Nat) : Nat :=
  let unit := Nat.pow 2 (value.log2 - 52)
  let quotient := value / unit
  let remainder := value % unit
  if unit < 2 * remainder ∨ (2 * remainder = unit ∧ quotient % 2 = 1) then
    (quotient + 1) * unit
  else quotient * unit

/-- The least number that rounds to no finite double. -/
def infinite : Nat := Nat.pow 2 1024 - Nat.pow 2 970

/-- The greatest power of ten that is a finite double. -/
def greatestPower : Nat := 308

/-- Whether a significand times a power of ten has no finite double. -/
def isTooLarge (significand : Nat) (power : Int) : Bool :=
  significand ≠ 0 && decide (0 ≤ power) &&
    (decide (greatestPower < power.toNat) ||
      decide (infinite ≤ roundToDouble significand * roundToDouble (Nat.pow 10 power.toNat)))

/-- The fault of a well-spelled number that has no double; what stands behind the number is
not read yet. An exponent that does not fit thirty-two bits is refused at the digit that
makes it too large, if it is positive and the number is not zero. -/
def rangeFault? (parts : NumberParts) (rest : Text) : Option Fault :=
  let (significand, power) := parts.scaled
  match parts.exponent with
  | none =>
    if isTooLarge significand power then some (.before .numberOutOfRange rest) else none
  | some (negative, digits) =>
    let (exponent, left) := absorb (Nat.pow 2 31) 0 digits
    if 0 < left then
      if significand ≠ 0 ∧ !negative then some ⟨.numberOutOfRange, left - 1 + rest.size⟩ else none
    else if isTooLarge significand (if negative then power - exponent else power + exponent) then
      some (.before .numberOutOfRange rest)
    else none

end NumberParts

/-- The number at the front of a text behind its sign: the text behind the number. -/
def readNumber (source : Text) : Except Fault Text :=
  match NumberParts.read source with
  | .error fault => .error fault
  | .ok (parts, rest) =>
    match parts.rangeFault? rest with
    | some fault => .error fault
    | none => .ok rest

/-! ### Reading a number makes the text shorter -/

namespace NumberParts

theorem digits_append_afterDigits (source : Text) : digits source ++ afterDigits source = source :=
  List.takeWhile_append_dropWhile

theorem length_digits_add_afterDigits (source : Text) :
    (digits source).length + (afterDigits source).length = source.length := by
  rw [← List.length_append, digits_append_afterDigits]

theorem length_lt_of_readInteger {source integer rest : Text}
    (read : readInteger source = .ok (integer, rest)) : rest.length < source.length := by
  unfold readInteger at read
  split at read
  · simp at read
  · rename_i nonempty
    split at read
    · simp at read
    · obtain ⟨-, rfl⟩ : _ ∧ afterDigits source = rest := by simpa using read
      have whole := length_digits_add_afterDigits source
      have positive := List.length_pos_iff.2 nonempty
      omega

theorem length_le_of_readFraction {source fraction rest : Text}
    (read : readFraction source = .ok (fraction, rest)) : rest.length ≤ source.length := by
  unfold readFraction at read
  split at read
  · rename_i inside
    split at read
    · simp at read
    · obtain ⟨-, rfl⟩ : _ ∧ afterDigits inside = rest := by simpa using read
      have whole := length_digits_add_afterDigits inside
      rw [List.length_cons]
      omega
  · obtain ⟨-, rfl⟩ : [] = fraction ∧ source = rest := by simpa using read
    exact Nat.le_refl _

theorem length_takeSign_le (source : Text) : (takeSign source).2.length ≤ source.length := by
  unfold takeSign
  split <;> simp

theorem length_le_of_readExponent {source : Text} {exponent : Option (Bool × Text)} {rest : Text}
    (read : readExponent source = .ok (exponent, rest)) : rest.length ≤ source.length := by
  unfold readExponent at read
  split at read
  · obtain ⟨-, rfl⟩ : none = exponent ∧ [] = rest := by simpa using read
    exact Nat.le_refl _
  · rename_i character signed
    split at read
    · simp only at read
      split at read
      · simp at read
      · obtain ⟨-, rfl⟩ : _ ∧ afterDigits (takeSign signed).2 = rest := by simpa using read
        have whole := length_digits_add_afterDigits (takeSign signed).2
        have bound := length_takeSign_le signed
        rw [List.length_cons]
        omega
    · obtain ⟨-, rfl⟩ : none = exponent ∧ character :: signed = rest := by simpa using read
      exact Nat.le_refl _

end NumberParts

theorem length_lt_of_readNumber {source rest : Text} (read : readNumber source = .ok rest) :
    rest.length < source.length := by
  unfold readNumber NumberParts.read at read
  split at read
  · simp at read
  · rename_i parts rest' spelled
    split at spelled
    · simp at spelled
    · rename_i integer afterInteger first
      split at spelled
      · simp at spelled
      · rename_i fraction afterFraction second
        split at spelled
        · simp at spelled
        · rename_i exponent rest'' third
          obtain ⟨-, rfl⟩ : _ ∧ rest'' = rest' := by simpa using spelled
          split at read
          · simp at read
          · obtain rfl : rest'' = rest := by simpa using read
            have one := NumberParts.length_lt_of_readInteger first
            have two := NumberParts.length_le_of_readFraction second
            have three := NumberParts.length_le_of_readExponent third
            omega

end Json

end Stencil
