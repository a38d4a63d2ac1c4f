/-
This file reads the target of a `for` block. A target spelled as two integers with
three points between them is a range; every other target is the path of a list.
-/

import Stencil.Text.Blank
import Stencil.Text.Integer
import Stencil.Text.Search

namespace Stencil

/-- What a `for` block runs over. -/
inductive LoopTarget where
  /-- The integers from the first to the last, both included; none when the first is greater. -/
  | range (first last : Int)
  /-- The texts of the list at a path. -/
  | path (path : Text)
  deriving DecidableEq, Repr

namespace LoopTarget

/-- The points between the bounds of a range. -/
def rangePoints : Text := ['.', '.', '.']

/-- The bounds that a text spells. -/
def bounds? (text : Text) : Option (Int × Int) :=
  (Text.cut? rangePoints text).bind fun (before, after) =>
    (Integer.read? before).bind fun first =>
      (Integer.read? after).map fun last => (first, last)

/-- The target that a text spells. -/
def ofText (text : Text) : LoopTarget :=
  match bounds? text.trim with
  | some (first, last) => .range first last
  | none => .path text.trim

/-- The integers from the first to the last. -/
def integers (first last : Int) : List Int :=
  (List.range (last - first + 1).toNat).map fun step => first + Int.ofNat step

theorem mem_integers {first last value : Int} :
    value ∈ integers first last ↔ first ≤ value ∧ value ≤ last := by
  simp only [integers, List.mem_map, List.mem_range, Int.ofNat_eq_natCast]
  constructor
  · rintro ⟨step, bound, rfl⟩
    omega
  · rintro ⟨low, high⟩
    exact ⟨(value - first).toNat, by omega, by omega⟩

end LoopTarget

end Stencil
