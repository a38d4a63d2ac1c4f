/-
This file takes slices of a text by byte offsets, as a program does that keeps its texts
as bytes. A slice fails when one of its ends lies inside a character or beyond the end
of the text, or when it would end before it begins.
-/

import Stencil.Proofs.Text.Place

namespace Stencil

namespace Text

/-- The text from an offset on; none when the offset is no boundary. -/
def sliceFrom? (text : Text) (offset : Nat) : Option Text :=
  (text.splitAt? offset).map Prod.snd

/-- The text from one offset to another; none when one of them is no boundary or they are out
of order. -/
def slice? (text : Text) (start stop : Nat) : Option Text :=
  if start ≤ stop then
    (text.sliceFrom? start).bind fun rest => (rest.splitAt? (stop - start)).map Prod.fst
  else none

theorem sliceFrom?_eq_some_iff {text rest : Text} {offset : Nat} :
    sliceFrom? text offset = some rest ↔
      ∃ before, text = before ++ rest ∧ before.size = offset := by
  rw [sliceFrom?, Option.map_eq_some_iff]
  constructor
  · rintro ⟨⟨before, after⟩, split, rfl⟩
    exact ⟨before, splitAt?_eq_some_iff.1 split⟩
  · rintro ⟨before, whole, sizes⟩
    exact ⟨(before, rest), splitAt?_eq_some_iff.2 ⟨whole, sizes⟩, rfl⟩

theorem sliceFrom?_append (before after : Text) :
    sliceFrom? (before ++ after) before.size = some after :=
  sliceFrom?_eq_some_iff.2 ⟨before, rfl, rfl⟩

theorem size_eq_of_sliceFrom? {text rest : Text} {offset : Nat}
    (sliced : sliceFrom? text offset = some rest) : text.size = offset + rest.size := by
  obtain ⟨before, rfl, rfl⟩ := sliceFrom?_eq_some_iff.1 sliced
  exact size_append before rest

theorem slice?_eq_some_iff {text middle : Text} {start stop : Nat} :
    slice? text start stop = some middle ↔ ∃ before after, text = before ++ (middle ++ after) ∧
      before.size = start ∧ start + middle.size = stop := by
  rw [slice?, Option.ite_none_right_eq_some, Option.bind_eq_some_iff]
  simp only [sliceFrom?_eq_some_iff, Option.map_eq_some_iff, Prod.exists, splitAt?_eq_some_iff]
  constructor
  · rintro ⟨ordered, _, ⟨before, rfl, starts⟩, _, after, ⟨rfl, sizes⟩, rfl⟩
    exact ⟨before, after, rfl, starts, by omega⟩
  · rintro ⟨before, after, rfl, starts, stops⟩
    exact ⟨by omega, _, ⟨before, rfl, starts⟩, middle, after, ⟨rfl, by omega⟩, rfl⟩

theorem slice?_append (before middle after : Text) :
    slice? (before ++ (middle ++ after)) before.size (before.size + middle.size) = some middle := by
  rw [slice?, if_pos (Nat.le_add_right _ _), sliceFrom?_append, Option.bind_some,
    Nat.add_sub_cancel_left, splitAt?_eq_some_iff.2 ⟨rfl, rfl⟩, Option.map_some]

end Text

end Stencil
