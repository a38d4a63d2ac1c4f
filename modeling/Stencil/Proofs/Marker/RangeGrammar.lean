/-
This file says character by character which targets are ranges. A bound is a zero alone or,
behind at most one sign, a digit from one to nine and any digits after it, and it stands for the
sum of its digits by their places. A bound holds no point, so a target is divided into two bounds
in one way at most, and no other pair of integers can be read from it. What keeps a target from
being a range is a bound that no machine word holds, or text left over behind the last bound; the
target is then a path, with all of its text.
-/

import Mathlib.Data.Nat.Digits.Defs
import Mathlib.Tactic.Ring
import Stencil.Proofs.Marker.RangeTarget

namespace Stencil

/-! ### Digits by their places -/

namespace Decimal

/-- The number that a row of digits stands for, every digit counted by its place. -/
def placeValue (row : Text) : Nat :=
  Nat.ofDigits 10 (row.reverse.map fun character => character.toNat - '0'.toNat)

theorem placeValue_cons (character : Char) (row : Text) :
    placeValue (character :: row) =
      placeValue row + 10 ^ row.length * (character.toNat - '0'.toNat) := by
  unfold placeValue
  rw [List.reverse_cons, List.map_append, Nat.ofDigits_append, List.length_map,
    List.length_reverse, List.map_singleton, Nat.ofDigits_singleton]

theorem digit?_eq_some_iff {character : Char} {unit : Nat} : digit? character = some unit ↔
    character.isDigit ∧ unit = character.toNat - '0'.toNat := by
  rw [digit?, Option.ite_none_right_eq_some, Option.some.injEq]
  exact and_congr_right fun _ => eq_comm

/-- Reading a row on from a value puts its digits behind those of the value. -/
theorem valueFrom?_eq_some_iff {row : Text} {start value : Nat} :
    valueFrom? start row = some value ↔
      (∀ character ∈ row, character.isDigit) ∧
        value = start * 10 ^ row.length + placeValue row := by
  induction row generalizing start with
  | nil =>
    have empty : placeValue [] = 0 := rfl
    rw [valueFrom?, Option.some.injEq, List.length_nil, empty, Nat.pow_zero, Nat.mul_one,
      Nat.add_zero, eq_comm]
    exact (and_iff_right (List.forall_mem_nil _)).symm
  | cons character row inductionHypothesis =>
    have places (unit : Nat) : (10 * start + unit) * 10 ^ row.length =
        start * 10 ^ (row.length + 1) + 10 ^ row.length * unit := by
      ring
    rw [valueFrom?, Option.bind_eq_some_iff, List.forall_mem_cons, List.length_cons,
      placeValue_cons]
    simp only [digit?_eq_some_iff, inductionHypothesis, places]
    constructor
    · rintro ⟨_, ⟨digit, rfl⟩, digits, rfl⟩
      exact ⟨⟨digit, digits⟩, by omega⟩
    · rintro ⟨⟨digit, digits⟩, rfl⟩
      exact ⟨_, ⟨digit, rfl⟩, digits, by omega⟩

theorem value?_eq_some_iff {row : Text} {value : Nat} : value? row = some value ↔
    row ≠ [] ∧ (∀ character ∈ row, character.isDigit) ∧ value = placeValue row := by
  rw [value?]
  split
  · rename_i empty
    simp [empty]
  · rename_i nonempty
    rw [valueFrom?_eq_some_iff, Nat.zero_mul, Nat.zero_add]
    exact (and_iff_right nonempty).symm

/-- A row of digits that begins with one from one to nine. -/
inductive Magnitude : Text → Prop where
  | mk {lead : Char} {row : Text} (low : '1' ≤ lead) (high : lead ≤ '9')
      (digits : ∀ character ∈ row, character.isDigit) : Magnitude (lead :: row)

theorem isDigit_and_ne_zero_iff {character : Char} :
    character.isDigit ∧ character ≠ '0' ↔ '1' ≤ character ∧ character ≤ '9' := by
  have zero : character = '0' ↔ character.toNat = 48 := Char.toNat_inj.symm
  have low : '1' ≤ character ↔ 49 ≤ character.toNat := Char.le_def.trans UInt32.le_iff_toNat_le
  have high : character ≤ '9' ↔ character.toNat ≤ 57 := Char.le_def.trans UInt32.le_iff_toNat_le
  have digit : character.isDigit ↔ 48 ≤ character.toNat ∧ character.toNat ≤ 57 :=
    Char.isDigit_iff_toNat
  rw [digit, ne_eq, zero, low, high]
  omega

theorem magnitude_iff {row : Text} : Magnitude row ↔
    row.head? ≠ some '0' ∧ row ≠ [] ∧ ∀ character ∈ row, character.isDigit := by
  constructor
  · rintro ⟨low, high, digits⟩
    obtain ⟨digit, nonzero⟩ := isDigit_and_ne_zero_iff.2 ⟨low, high⟩
    refine ⟨fun leading => nonzero (Option.some.inj leading), List.cons_ne_nil _ _, ?_⟩
    exact List.forall_mem_cons.2 ⟨digit, digits⟩
  · rintro ⟨leading, nonempty, digits⟩
    cases row with
    | nil => exact absurd rfl nonempty
    | cons lead row =>
      obtain ⟨digit, behind⟩ := List.forall_mem_cons.1 digits
      have nonzero : lead ≠ '0' := fun same => leading (congrArg some same)
      obtain ⟨low, high⟩ := isDigit_and_ne_zero_iff.1 ⟨digit, nonzero⟩
      exact ⟨low, high, behind⟩

theorem magnitude_placeValue_iff {row : Text} {value : Nat} :
    Magnitude row ∧ value = placeValue row ↔
      row.head? ≠ some '0' ∧ value? row = some value := by
  rw [magnitude_iff, value?_eq_some_iff]
  simp only [and_assoc]

end Decimal

namespace Integer

variable {text : Text} {value : Int}

/-- A zero alone or, behind at most one sign, a digit from one to nine and any digits, with the
integer that the digits stand for by their places. -/
inductive PlacedNumeral : Text → Int → Prop where
  | zero : PlacedNumeral ['0'] 0
  | unsigned {row : Text} (magnitude : Decimal.Magnitude row) :
      PlacedNumeral row (Decimal.placeValue row)
  | plus {row : Text} (magnitude : Decimal.Magnitude row) :
      PlacedNumeral ('+' :: row) (Decimal.placeValue row)
  | minus {row : Text} (magnitude : Decimal.Magnitude row) :
      PlacedNumeral ('-' :: row) (-Decimal.placeValue row)

/-- The numerals are what the grammar says character by character. -/
theorem numeral_iff_placed : Numeral text value ↔ PlacedNumeral text value := by
  constructor
  · intro numeral
    cases numeral with
    | zero => exact .zero
    | plain leading digits =>
      obtain ⟨magnitude, rfl⟩ := Decimal.magnitude_placeValue_iff.2 ⟨leading, digits⟩
      exact .unsigned magnitude
    | plus leading digits =>
      obtain ⟨magnitude, rfl⟩ := Decimal.magnitude_placeValue_iff.2 ⟨leading, digits⟩
      exact .plus magnitude
    | minus leading digits =>
      obtain ⟨magnitude, rfl⟩ := Decimal.magnitude_placeValue_iff.2 ⟨leading, digits⟩
      exact .minus magnitude
  · intro placed
    cases placed with
    | zero => exact .zero
    | unsigned magnitude =>
      obtain ⟨leading, digits⟩ := Decimal.magnitude_placeValue_iff.1 ⟨magnitude, rfl⟩
      exact .plain leading digits
    | plus magnitude =>
      obtain ⟨leading, digits⟩ := Decimal.magnitude_placeValue_iff.1 ⟨magnitude, rfl⟩
      exact .plus leading digits
    | minus magnitude =>
      obtain ⟨leading, digits⟩ := Decimal.magnitude_placeValue_iff.1 ⟨magnitude, rfl⟩
      exact .minus leading digits

/-- A numeral stands for one integer. -/
theorem PlacedNumeral.unique {other : Int} (placed : PlacedNumeral text value)
    (again : PlacedNumeral text other) : value = other := by
  have spelled := spelled?_eq_some_iff.2 (numeral_iff_placed.2 placed)
  rw [spelled?_eq_some_iff.2 (numeral_iff_placed.2 again)] at spelled
  exact (Option.some.inj spelled).symm

end Integer

namespace LoopTarget

variable {text before after : Text} {first last : Int}

/-! ### Bounds around points -/

/-- A text is two numerals with the points between them, whatever integers they stand for. -/
structure SpellsRange (text before after : Text) (first last : Int) : Prop where
  divided : text = before ++ (rangePoints ++ after)
  first_spelled : Integer.PlacedNumeral before first
  last_spelled : Integer.PlacedNumeral after last

theorem spellsBounds_iff_spellsRange : SpellsBounds text first last ↔
    ∃ before after, SpellsRange text before after first last ∧
      Integer.Fits first ∧ Integer.Fits last := by
  constructor
  · rintro ⟨before, after, divided, ⟨lower, lowerFits⟩, upper, upperFits⟩
    exact ⟨before, after, ⟨divided, Integer.numeral_iff_placed.1 lower,
      Integer.numeral_iff_placed.1 upper⟩, lowerFits, upperFits⟩
  · rintro ⟨before, after, ⟨divided, lower, upper⟩, lowerFits, upperFits⟩
    exact ⟨before, after, divided, ⟨Integer.numeral_iff_placed.2 lower, lowerFits⟩,
      Integer.numeral_iff_placed.2 upper, upperFits⟩

/-- The numeral in front ends at the first points of the text. -/
theorem SpellsRange.cut?_eq (spells : SpellsRange text before after first last) :
    Text.cut? rangePoints text = some (before, after) := by
  have skips : Text.Skips rangePoints before (rangePoints ++ after) :=
    skips_of_numeral (Integer.numeral_iff_placed.2 spells.first_spelled) _
  rw [spells.divided]
  exact Text.cut?_of_skips (by decide) skips

/-- A text is divided into two numerals in one way, and spells one pair of integers. -/
theorem SpellsRange.unique {before' after' : Text} {first' last' : Int}
    (spells : SpellsRange text before after first last)
    (other : SpellsRange text before' after' first' last') :
    before' = before ∧ after' = after ∧ first' = first ∧ last' = last := by
  have sameCut := other.cut?_eq.symm.trans spells.cut?_eq
  obtain ⟨rfl, rfl⟩ := Prod.mk.inj (Option.some.inj sameCut)
  exact ⟨rfl, rfl, other.first_spelled.unique spells.first_spelled,
    other.last_spelled.unique spells.last_spelled⟩

/-- What two readings from the left leave over decides whether a target is a range. -/
theorem ofText_of_take? {target rest : Text}
    (lower : Integer.take? target.trim = some (first, rangePoints ++ after))
    (upper : Integer.take? after = some (last, rest)) :
    ofText target = if rest = [] then .range first last else .path target.trim := by
  have bounds : bounds? target.trim = if rest = [] then some (first, last) else none := by
    rw [← takeBounds?_eq_bounds?, takeBounds?, lower]
    simp only [Option.bind_some, Text.isPrefixOf?_append, upper]
  rw [ofText, bounds]
  by_cases nothing : rest = []
  · rw [if_pos nothing, if_pos nothing]
  · rw [if_neg nothing, if_neg nothing]

/-- A target is a range exactly when it is, trimmed, two numerals with the points between them and
a machine word holds both integers, and it is the range of these two; every other target is a path,
all of what is trimmed. A target is divided into numerals in one way, whether their integers fit or
not, so no other pair can be read, and one integer that is too large or too small makes a path. So
does text that is left over where the longest numeral, the points and the longest numeral have been
taken from the left. -/
theorem range_iff_placed_numerals (target : Text) :
    (∀ first last, ofText target = .range first last ↔
      ∃ before after, SpellsRange target.trim before after first last ∧
        Integer.Fits first ∧ Integer.Fits last) ∧
    ((∀ before after first last, SpellsRange target.trim before after first last →
      ¬ (Integer.Fits first ∧ Integer.Fits last)) → ofText target = .path target.trim) ∧
    (∀ before after first last, SpellsRange target.trim before after first last →
      (∀ before' after' first' last', SpellsRange target.trim before' after' first' last' →
        before' = before ∧ after' = after ∧ first' = first ∧ last' = last) ∧
      ofText target = if Integer.Fits first ∧ Integer.Fits last then .range first last
        else .path target.trim) ∧
    (∀ first after last rest, Integer.take? target.trim = some (first, rangePoints ++ after) →
      Integer.take? after = some (last, rest) →
      ofText target = if rest = [] then .range first last else .path target.trim) := by
  have ranges (first last : Int) : ofText target = .range first last ↔
      ∃ before after, SpellsRange target.trim before after first last ∧
        Integer.Fits first ∧ Integer.Fits last := by
    rw [ofText_eq_range_iff, bounds?_eq_some_iff, spellsBounds_iff_spellsRange]
  have paths (absent : ∀ before after first last,
      SpellsRange target.trim before after first last →
        ¬ (Integer.Fits first ∧ Integer.Fits last)) : ofText target = .path target.trim := by
    refine ofText_eq_path_of_not_range fun first last isRange => ?_
    obtain ⟨before, after, spells, fits⟩ := (ranges first last).1 isRange
    exact absent before after first last spells fits
  refine ⟨ranges, paths, fun before after first last spells => ⟨?_, ?_⟩, ?_⟩
  · exact fun before' after' first' last' other => spells.unique other
  · split
    · rename_i fits
      exact (ranges first last).2 ⟨before, after, spells, fits⟩
    · rename_i beyond
      refine paths fun before' after' first' last' other => ?_
      obtain ⟨-, -, rfl, rfl⟩ := spells.unique other
      exact beyond
  · exact fun first after last rest lower upper => ofText_of_take? lower upper

/-- The widest range is read between blanks. One more than the greatest word makes a path, and so
does a third bound. -/
theorem widest_range_read :
    let widest : Text := " -9223372036854775808...+9223372036854775807\n".toList
    let beyond : Text := "1...9223372036854775808".toList
    let leftOver : Text := "1...20...3".toList
    ofText widest = .range Integer.least Integer.greatest ∧ ofText beyond = .path beyond ∧
      ofText leftOver = .path leftOver := by
  intro widest beyond leftOver
  have digits : Decimal.Magnitude "9223372036854775807".toList :=
    .mk (by decide) (by decide) (List.all_eq_true.1 (by decide))
  have more : Decimal.Magnitude "9223372036854775808".toList :=
    .mk (by decide) (by decide) (List.all_eq_true.1 (by decide))
  have one : Decimal.Magnitude ['1'] := .mk (by decide) (by decide) (List.forall_mem_nil _)
  obtain ⟨ranges, -⟩ := range_iff_placed_numerals widest
  obtain ⟨-, -, divided, -⟩ := range_iff_placed_numerals beyond
  obtain ⟨-, -, -, taken⟩ := range_iff_placed_numerals leftOver
  refine ⟨(ranges _ _).2 ⟨_, _, ⟨?_, .minus more, .plus digits⟩, ?_, ?_⟩, ?_, ?_⟩
  · decide +kernel
  · decide +kernel
  · decide +kernel
  · exact (divided _ _ _ _ ⟨rfl, .unsigned one, .unsigned more⟩).2.trans
      (if_neg (by decide +kernel))
  · exact (taken 1 "20...3".toList 20 "...3".toList (by decide +kernel) (by decide +kernel)).trans
      (if_neg (by decide))

end LoopTarget

end Stencil
