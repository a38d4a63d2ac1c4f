/-
This file orders the places of a text. One place precedes another when it is on an
earlier line, or on the same line in an earlier column. Every character leads to a later
place, a line feed to the next line and any other one to the next column, so the places
of a text are in the order of their offsets and no two boundaries have the same place.
-/

import Stencil.Proofs.Text.Place
import Stencil.Text.Position

namespace Stencil

namespace Position

/-- One place is on an earlier line than another, or on its line in an earlier column. -/
def Precedes (first second : Position) : Prop :=
  first.line < second.line ∨ first.line = second.line ∧ first.column < second.column

theorem Precedes.trans {first second third : Position} (before : first.Precedes second)
    (behind : second.Precedes third) : first.Precedes third := by
  simp only [Precedes] at *
  omega

theorem Precedes.irrefl {place : Position} : ¬ place.Precedes place := by
  simp only [Precedes]
  omega

theorem after_precedes_append_singleton (text : Text) (character : Char) :
    (after text).Precedes (after (text ++ [character])) := by
  rw [after_append_singleton]
  split
  · exact Or.inl (Nat.lt_succ_self _)
  · exact Or.inr ⟨rfl, Nat.lt_succ_self _⟩

/-- The place behind a text precedes the place behind any longer one. -/
theorem after_precedes_append (text : Text) {more : Text} (nonempty : more ≠ []) :
    (after text).Precedes (after (text ++ more)) := by
  induction more generalizing text with
  | nil => exact absurd rfl nonempty
  | cons character rest inductionHypothesis =>
    have step := after_precedes_append_singleton text character
    cases rest with
    | nil => exact step
    | cons next tail =>
      rw [← List.singleton_append, ← List.append_assoc]
      exact step.trans (inductionHypothesis _ (List.cons_ne_nil _ _))

/-- The places of boundaries are in the order of their offsets. -/
theorem precedes_of_lt {text : Text} {first second : Nat} (ordered : first < second)
    (firstBoundary : text.IsBoundary first) (secondBoundary : text.IsBoundary second) :
    ∃ place place', ofOffset? text first = some place ∧ ofOffset? text second = some place' ∧
      place.Precedes place' := by
  obtain ⟨before, after', rfl, rfl⟩ := firstBoundary
  obtain ⟨through, beyond, whole, rfl⟩ := secondBoundary
  obtain ⟨middle, rfl, -⟩ :=
    Text.exists_eq_append_of_size_le whole (Nat.le_of_lt ordered)
  have nonempty : middle ≠ [] := by
    rintro rfl
    rw [List.append_nil] at ordered
    omega
  refine ⟨after before, after (before ++ middle), ofOffset?_size_append _ _, ?_,
    after_precedes_append before nonempty⟩
  rw [whole, ofOffset?_size_append]

end Position

end Stencil
