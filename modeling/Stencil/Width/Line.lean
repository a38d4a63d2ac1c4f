/-
This file measures how many columns of a terminal a line of text takes: what its
characters add one after the other, from the last one to the first. A line of
plain ASCII takes a column for each character.
-/

import Stencil.Width.Sequence

namespace Stencil

namespace Width

/-- What was measured of a line, with one more character in front. -/
def prepend (character : Char) (measured : Int × Behind) : Int × Behind :=
  let (added, next) := measured.2.add character.toNat
  (measured.1 + added, next)

/-- The columns that a line takes, and what stands at its front. -/
def measure (line : Text) : Int × Behind :=
  line.foldr prepend (0, .nothing)

theorem measure_of_ascii {line : Text} (plain : ∀ character ∈ line, character.toNat < 0x80) :
    measure line = (Int.ofNat line.length, .nothing) := by
  induction line with
  | nil => rfl
  | cons character rest inductionHypothesis =>
    have small : character.toNat ≤ 0xA0 :=
      Nat.le_trans (Nat.le_of_lt (plain character (by simp))) (by decide)
    have later := inductionHypothesis fun other member => plain other (by simp [member])
    rw [measure, List.foldr_cons, ← measure, later, prepend]
    simp only [Behind.add_nothing_of_le small, List.length_cons]
    rfl

end Width

/-- The columns of a terminal that a line of text takes. -/
def Text.width (line : Text) : Nat :=
  (Width.measure line).1.toNat

namespace Text

@[simp] theorem width_nil : width [] = 0 := rfl

theorem width_of_ascii {line : Text} (plain : ∀ character ∈ line, character.toNat < 0x80) :
    width line = line.length := by
  rw [width, Width.measure_of_ascii plain]
  rfl

end Text

end Stencil
