/-
This file says which targets of a `for` block are ranges. A target is cut at its first
points, and both parts have to be numerals. Since a numeral holds no point, reading from
the left finds the same: the longest numeral, the points, the longest numeral, and nothing
left over. Where the bounds might be spelled with any row of digits, the ranges are those
without a padded bound; a target with a padded one counts as the path of a list.
-/

import Stencil.Marker.LoopTarget
import Stencil.Proofs.Text.Numeral
import Stencil.Proofs.Text.Skipping

namespace Stencil

namespace LoopTarget

variable {text before after : Text} {first last : Int}

/-! ### Numerals around points -/

/-- A search for the points passes over a numeral. -/
theorem skips_of_numeral (numeral : Integer.Numeral before first) (after : Text) :
    Text.Skips rangePoints before after := by
  refine Text.skips_of_not_mem fun member => ?_
  rcases numeral.isDigit_or_sign _ member with digit | plus | minus
  · exact absurd digit (by decide)
  · exact absurd plus (by decide)
  · exact absurd minus (by decide)

/-- A text is two numerals of integers that fit, with the points between them. -/
def SpellsBounds (text : Text) (first last : Int) : Prop :=
  ∃ before after, text = before ++ (rangePoints ++ after) ∧
    (Integer.Numeral before first ∧ Integer.Fits first) ∧
    (Integer.Numeral after last ∧ Integer.Fits last)

theorem bounds?_eq_some_iff : bounds? text = some (first, last) ↔ SpellsBounds text first last := by
  rw [bounds?, Option.bind_eq_some_iff]
  constructor
  · rintro ⟨⟨before, after⟩, cut, read⟩
    obtain ⟨lower, lowerRead, rest⟩ := Option.bind_eq_some_iff.1 read
    obtain ⟨upper, upperRead, same⟩ := Option.map_eq_some_iff.1 rest
    obtain ⟨rfl, rfl⟩ := Prod.mk.inj same
    have whole := Text.eq_append_of_cut? cut
    rw [List.append_assoc] at whole
    exact ⟨before, after, whole, Integer.read?_eq_some_iff.1 lowerRead,
      Integer.read?_eq_some_iff.1 upperRead⟩
  · rintro ⟨before, after, rfl, lower, upper⟩
    refine ⟨(before, after), Text.cut?_of_skips (by decide) (skips_of_numeral lower.1 _), ?_⟩
    simp only [Integer.read?_eq_some_iff.2 lower, Integer.read?_eq_some_iff.2 upper]
    rfl

/-! ### Reading from the left -/

/-- The bounds that are read from the left of a text: the longest numeral, the points, the longest
numeral, and nothing behind it. -/
def takeBounds? (text : Text) : Option (Int × Int) :=
  (Integer.take? text).bind fun (first, behind) =>
    (rangePoints.isPrefixOf? behind).bind fun after =>
      (Integer.take? after).bind fun (last, rest) =>
        if rest = [] then some (first, last) else none

theorem takeBounds?_eq_some_iff :
    takeBounds? text = some (first, last) ↔ SpellsBounds text first last := by
  simp only [takeBounds?, Option.bind_eq_some_iff, Prod.exists, Integer.take?_eq_some_iff,
    Text.isPrefixOf?_eq_some_iff, Option.ite_none_right_eq_some, Option.some.injEq, Prod.mk.injEq]
  constructor
  · rintro ⟨lower, behind, ⟨before, rfl, lowerNumeral, lowerFits, -⟩, after, rfl, upper, rest,
      ⟨inner, rfl, upperNumeral, upperFits, -⟩, rfl, rfl, rfl⟩
    refine ⟨before, inner, ?_, ⟨lowerNumeral, lowerFits⟩, upperNumeral, upperFits⟩
    rw [List.append_nil]
  · rintro ⟨before, after, rfl, ⟨lowerNumeral, lowerFits⟩, upperNumeral, upperFits⟩
    have pointsEnd : Integer.EndsDigits (rangePoints ++ after) := by
      rintro character ⟨⟩
      decide
    have nothingEnds : Integer.EndsDigits [] := nofun
    exact ⟨first, _, ⟨before, rfl, lowerNumeral, lowerFits, Or.inr pointsEnd⟩, after, rfl, last, [],
      ⟨after, (List.append_nil after).symm, upperNumeral, upperFits, Or.inr nothingEnds⟩,
      rfl, rfl, rfl⟩

/-- Cutting at the points and reading from the left find the same bounds. -/
theorem takeBounds?_eq_bounds? (text : Text) : takeBounds? text = bounds? text := by
  refine Option.ext fun (first, last) => ?_
  rw [takeBounds?_eq_some_iff, bounds?_eq_some_iff]

/-! ### Which targets are ranges -/

theorem ofText_eq_range_iff :
    ofText text = .range first last ↔ bounds? text.trim = some (first, last) := by
  rw [ofText]
  split
  · rename_i lower upper found
    rw [found, range.injEq, Option.some.injEq, Prod.mk.injEq]
  · rename_i absent
    simp [absent]

theorem ofText_eq_path_of_not_range (absent : ∀ first last, ofText text ≠ .range first last) :
    ofText text = .path text.trim := by
  cases found : bounds? text.trim with
  | none => rw [ofText, found]
  | some bounds => exact absurd (ofText_eq_range_iff.2 found) (absent _ _)

/-- Blanks around two bounds are trimmed. -/
theorem SpellsBounds.trim_append (spells : SpellsBounds text first last) {front back : Text}
    (frontBlank : ∀ character ∈ front, Text.isBlank character)
    (backBlank : ∀ character ∈ back, Text.isBlank character) :
    Text.trim (front ++ text ++ back) = text := by
  obtain ⟨before, after, rfl, ⟨lower, -⟩, upper, -⟩ := spells
  refine Text.trim_append frontBlank backBlank (fun character head => ?_) fun character tail => ?_
  · rw [List.head?_append, List.head?_eq_some_head lower.ne_nil, Option.some_or] at head
    obtain rfl := Option.some.inj head
    exact lower.isBlank_eq_false _ (List.head_mem _)
  · rw [← List.append_assoc, List.getLast?_append, List.getLast?_eq_some_getLast upper.ne_nil,
      Option.some_or] at tail
    obtain rfl := Option.some.inj tail
    exact upper.isBlank_eq_false _ (List.getLast_mem _)

theorem SpellsBounds.ofText_eq_range (spells : SpellsBounds text first last) {front back : Text}
    (frontBlank : ∀ character ∈ front, Text.isBlank character)
    (backBlank : ∀ character ∈ back, Text.isBlank character) :
    ofText (front ++ text ++ back) = .range first last := by
  rw [ofText_eq_range_iff, spells.trim_append frontBlank backBlank]
  exact bounds?_eq_some_iff.2 spells

/-- Around the first points of a text stand two integers that fit, each spelled with any row of
digits behind at most one sign. -/
structure LooseBounds (text before after : Text) (first last : Int) : Prop where
  divided : Text.FirstAt rangePoints text before after
  first_spelled : Integer.LooseNumeral before first
  first_fits : Integer.Fits first
  last_spelled : Integer.LooseNumeral after last
  last_fits : Integer.Fits last

theorem spellsBounds_iff_loose : SpellsBounds text first last ↔
    ∃ before after, LooseBounds text before after first last ∧
      ¬ Integer.Padded before ∧ ¬ Integer.Padded after := by
  constructor
  · rintro ⟨before, after, rfl, lower, upper⟩
    have divided := Text.cut?_eq_some_iff.1
      (Text.cut?_of_skips (by decide) (skips_of_numeral lower.1 (rangePoints ++ after)))
    exact ⟨before, after, ⟨divided, lower.1.loose, lower.2, upper.1.loose, upper.2⟩,
      lower.1.not_padded, upper.1.not_padded⟩
  · rintro ⟨before, after, loose, lowerPlain, upperPlain⟩
    have whole := loose.divided.1
    rw [List.append_assoc] at whole
    exact ⟨before, after, whole,
      ⟨Integer.numeral_iff_loose.2 ⟨loose.first_spelled, lowerPlain⟩, loose.first_fits⟩,
      Integer.numeral_iff_loose.2 ⟨loose.last_spelled, upperPlain⟩, loose.last_fits⟩

/-- A target is a range exactly when the texts around its first points spell integers that fit and
neither is padded, and otherwise it is a path, all of it. So a padded bound, which would spell an
integer as well, makes a path of a range. Reading the target from the left, numeral by numeral,
gives the same. -/
theorem range_iff_loose_unpadded (target : Text) :
    (∀ first last, ofText target = .range first last ↔
      ∃ before after, LooseBounds target.trim before after first last ∧
        ¬ Integer.Padded before ∧ ¬ Integer.Padded after) ∧
    ((∀ first last, ofText target ≠ .range first last) → ofText target = .path target.trim) ∧
    (∀ before after first last, LooseBounds target.trim before after first last →
      Integer.Padded before ∨ Integer.Padded after → ofText target = .path target.trim) ∧
    ∀ first last, ofText target = .range first last ↔
      takeBounds? target.trim = some (first, last) := by
  have ranges (first last : Int) : ofText target = .range first last ↔
      ∃ before after, LooseBounds target.trim before after first last ∧
        ¬ Integer.Padded before ∧ ¬ Integer.Padded after := by
    rw [ofText_eq_range_iff, bounds?_eq_some_iff, spellsBounds_iff_loose]
  refine ⟨ranges, ofText_eq_path_of_not_range, fun before after first last loose padded => ?_,
    fun first last => ?_⟩
  · refine ofText_eq_path_of_not_range fun lower upper isRange => ?_
    obtain ⟨before', after', loose', lowerPlain, upperPlain⟩ := (ranges lower upper).1 isRange
    have sameCut := (Text.cut?_eq_some_iff.2 loose.divided).symm.trans
      (Text.cut?_eq_some_iff.2 loose'.divided)
    obtain ⟨rfl, rfl⟩ := Prod.mk.inj (Option.some.inj sameCut)
    exact padded.elim lowerPlain upperPlain
  · rw [takeBounds?_eq_bounds?, ofText_eq_range_iff]

/-- Signs in front of the bounds are read; a zero behind a sign makes a path. -/
theorem signed_range_read :
    let signed : Text := " +5...-7 ".toList
    let zero : Text := "-0...3".toList
    ofText signed = .range 5 (-7) ∧ ofText zero = .path zero := by
  intro signed zero
  obtain ⟨-, -, -, taken⟩ := range_iff_loose_unpadded signed
  obtain ⟨-, -, padded, -⟩ := range_iff_loose_unpadded zero
  have lower : Decimal.value? ['0'] = some 0 := by decide
  have upper : Decimal.value? ['3'] = some 3 := by decide
  have loose : LooseBounds zero.trim ['-', '0'] ['3'] (-0) 3 :=
    ⟨Text.cut?_eq_some_iff.1 (by decide), .minus lower, by decide, .plain upper, by decide⟩
  exact ⟨(taken 5 (-7)).2 (by decide +kernel), padded _ _ _ _ loose (Or.inl (.minus []))⟩

/-- A zero in front of the first bound makes a path of a target that spells two integers. -/
theorem padded_range_is_path :
    let target : Text := "01...2".toList
    LooseBounds target.trim ['0', '1'] ['2'] 1 2 ∧ ofText target ≠ .range 1 2 ∧
      ofText target = .path target := by
  intro target
  have lower : Decimal.value? ['0', '1'] = some 1 := by decide
  have upper : Decimal.value? ['2'] = some 2 := by decide
  refine ⟨⟨Text.cut?_eq_some_iff.1 (by decide), ?_, by decide, ?_, by decide⟩, ?_, ?_⟩
  · exact .plain lower
  · exact .plain upper
  · decide
  · decide

end LoopTarget

end Stencil
