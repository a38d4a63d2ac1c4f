/-
This file divides a text into pieces. Every text is a row of pieces, be it a well-formed
template or not: the placeholders that a scan finds in it and the characters between them.
Filling the text fills these pieces one by one, so what is put in for one of them is not
read again and has no part in what becomes of the others.
-/

import Stencil.Proofs.Render.Unfolding
import Stencil.Template

namespace Stencil

namespace Piece

/-- The pieces of a text: the placeholders in it and the characters between them. -/
def ofText (text : Text) : List Piece :=
  match text with
  | [] => []
  | character :: rest =>
    match _found : Placeholder.read? (character :: rest) with
    | some (content, after) => placeholder content :: ofText after
    | none => literal [character] :: ofText rest
termination_by text.length
decreasing_by
  · exact Placeholder.length_lt_of_read? _found
  · simp

/-- The path of a placeholder. -/
def path? : Piece → Option Text
  | literal _ => none
  | placeholder content => some content.trim

/-- A text is written as its pieces are. -/
theorem flatMap_written_ofText (text : Text) : (ofText text).flatMap written = text := by
  fun_induction ofText text with
  | case1 => rfl
  | case2 character rest content after read inductionHypothesis =>
    rw [List.flatMap_cons, inductionHypothesis, Placeholder.eq_append_of_read? read]
    rfl
  | case3 character rest unread inductionHypothesis =>
    rw [List.flatMap_cons, inductionHypothesis]
    rfl

/-- The placeholders among the pieces are those that a scan finds. -/
theorem filterMap_path?_ofText (offset : Nat) (text : Text) :
    (ofText text).filterMap path? =
      (Placeholder.scanFrom offset text).map Placeholder.path := by
  fun_induction ofText text generalizing offset with
  | case1 => simp
  | case2 character rest content after read inductionHypothesis =>
    rw [Placeholder.scanFrom_of_read? read, List.map_cons, ← inductionHypothesis]
    rfl
  | case3 character rest unread inductionHypothesis =>
    rw [Placeholder.scanFrom_of_not_read unread, ← inductionHypothesis]
    rfl

/-- Filling a text fills its pieces. -/
theorem interpolate_eq_flatMap_fill (root : Value) (text : Text) :
    Render.interpolate root text = (ofText text).flatMap (fill [root]) := by
  fun_induction ofText text with
  | case1 => exact Render.interpolate_nil root
  | case2 character rest content after read inductionHypothesis =>
    rw [Render.interpolate_of_read? root read, List.flatMap_cons, inductionHypothesis, fill,
      List.findSome?_cons]
    cases root.lookupText content.trim <;> rfl
  | case3 character rest unread inductionHypothesis =>
    rw [Render.interpolate_of_not_read root unread, List.flatMap_cons, inductionHypothesis]
    rfl

end Piece

end Stencil
