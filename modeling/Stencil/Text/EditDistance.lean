/-
This file computes the edit distance of two texts, the least number of characters
to insert, delete or replace that turns one into the other. The table of
distances is built a row at a time: the row of a text holds its distance to every
end of the other text, the longest end first, so one row follows from the one
before it and the last entry of each is a length.
-/

import Stencil.Text.Basic

namespace Stencil

namespace Text

/-- The distances of the empty text to every end of a text. -/
def emptyRow (text : Text) : List Nat :=
  match text with
  | [] => [0]
  | _ :: rest => (rest.length + 1) :: emptyRow rest

/-- The row of a text with one more character in front, from the row of that text. -/
def extendRow (character : Char) : Text → List Nat → List Nat
  | [], row => [row.headD 0 + 1]
  | other :: rest, row =>
    let shorter := extendRow character rest row.tail
    let replaced := row.tail.headD 0 + (if character = other then 0 else 1)
    min (min (row.headD 0 + 1) (shorter.headD 0 + 1)) replaced :: shorter

/-- The distances of the first text to every end of the second. -/
def distanceRow (first second : Text) : List Nat :=
  match first with
  | [] => emptyRow second
  | character :: rest => extendRow character second (distanceRow rest second)

/-- The least number of characters to insert, delete or replace. -/
def editDistance (first second : Text) : Nat :=
  (distanceRow first second).headD 0

/-! ### The recursion the table obeys -/

theorem tail_extendRow (character other : Char) (rest : Text) (row : List Nat) :
    (extendRow character (other :: rest) row).tail = extendRow character rest row.tail := rfl

/-- The row of an end of the text is the end of the row. -/
theorem tail_distanceRow (first : Text) (other : Char) (rest : Text) :
    (distanceRow first (other :: rest)).tail = distanceRow first rest := by
  induction first with
  | nil => rfl
  | cons character first inductionHypothesis =>
    rw [distanceRow, tail_extendRow, inductionHypothesis, ← distanceRow]

@[simp] theorem editDistance_nil_left (second : Text) : editDistance [] second = second.length := by
  cases second <;> rfl

@[simp] theorem editDistance_nil_right (first : Text) : editDistance first [] = first.length := by
  induction first with
  | nil => rfl
  | cons character rest inductionHypothesis =>
    show editDistance rest [] + 1 = _
    rw [inductionHypothesis, List.length_cons]

theorem editDistance_cons_cons (character other : Char) (first second : Text) :
    editDistance (character :: first) (other :: second) =
      min (min (editDistance first (other :: second) + 1)
          (editDistance (character :: first) second + 1))
        (editDistance first second + if character = other then 0 else 1) := by
  show min (min _ ((extendRow character second (distanceRow first (other :: second)).tail).headD 0
    + 1)) ((distanceRow first (other :: second)).tail.headD 0 + _) = _
  rw [tail_distanceRow]
  rfl

end Text

end Stencil
