/-
This file follows the passes on the pieces of a template. A pass over the text of pieces
does what a function on the pieces does: filling fills piece by piece, and replacing one
placeholder replaces it piece by piece. The texts that come in have no braces, so the
pieces that come out are well-formed again, and a search for a tag passes over them all.
-/

import Stencil.Proofs.Render.Unfolding
import Stencil.Proofs.Template.BraceFree

namespace Stencil

namespace Piece

/-- The piece with its placeholder filled from a root; it stays when the root has no text
there. -/
def resolve (root : Value) : Piece → Piece
  | literal content => literal content
  | placeholder content =>
    match root.lookupText content.trim with
    | some new => literal new
    | none => placeholder content

/-- The piece with one placeholder replaced. -/
def substitute (token new : Text) (piece : Piece) : Piece :=
  if piece.written = token then literal new else piece

theorem written_resolve (root : Value) (piece : Piece) :
    (piece.resolve root).written = piece.fill [root] := by
  cases piece with
  | literal content => rfl
  | placeholder content =>
    rw [resolve, fill, List.findSome?_cons]
    cases root.lookupText content.trim <;> rfl

/-- Filling from an item first and then from the root tries both. -/
theorem fill_resolve (item root : Value) (piece : Piece) :
    (piece.resolve item).fill [root] = piece.fill [item, root] := by
  cases piece with
  | literal content => rfl
  | placeholder content =>
    rw [resolve, fill, List.findSome?_cons]
    cases item.lookupText content.trim <;> rfl

theorem fill_substitute (token new : Text) (root : Value) (piece : Piece) :
    (piece.substitute token new).fill [root] = piece.fillToken token new root := by
  rw [substitute, fillToken]
  split <;> rfl

theorem isWellFormed_resolve {root : Value} (free : root.BraceFree) {piece : Piece}
    (wellFormed : piece.isWellFormed) : (piece.resolve root).isWellFormed := by
  cases piece with
  | literal content => exact wellFormed
  | placeholder content =>
    rw [resolve]
    split
    · rename_i new found
      exact free.lookupText found
    · exact wellFormed

theorem isWellFormed_substitute {token new : Text} (free : new.isBraceFree) {piece : Piece}
    (wellFormed : piece.isWellFormed) : (piece.substitute token new).isWellFormed := by
  rw [substitute]
  split
  · exact free
  · exact wellFormed

theorem isWellFormed_placeholder {content : Text}
    (wellFormed : (placeholder content).isWellFormed) :
    content.isBraceFree ∧ Placeholder.isPath content.trim := by
  simpa [isWellFormed] using wellFormed

/-! ### Searching over a piece -/

/-- A search for a tag passes over a well-formed piece. -/
theorem skips_tag {piece : Piece} (wellFormed : piece.isWellFormed) (tail after : Text) :
    Text.Skips ('{' :: '{' :: '#' :: tail) piece.written after := by
  cases piece with
  | literal content => exact Text.skips_of_isBraceFree wellFormed after
  | placeholder content =>
    obtain ⟨free, isPath⟩ := isWellFormed_placeholder wellFormed
    exact Placeholder.skips_written_tag free isPath tail after

theorem skips_tag_flatMap {pieces : List Piece} (wellFormed : ∀ piece ∈ pieces, piece.isWellFormed)
    (tail after : Text) :
    Text.Skips ('{' :: '{' :: '#' :: tail) (pieces.flatMap written) after := by
  induction pieces with
  | nil => trivial
  | cons piece rest inductionHypothesis =>
    obtain ⟨pieceWellFormed, restWellFormed⟩ := List.forall_mem_cons.1 wellFormed
    rw [List.flatMap_cons]
    exact Text.skips_append.2 ⟨skips_tag pieceWellFormed tail _, inductionHypothesis restWellFormed⟩

/-- Filling a text of pieces fills piece by piece. -/
theorem interpolate_flatMap_written (root : Value) {pieces : List Piece}
    (wellFormed : ∀ piece ∈ pieces, piece.isWellFormed) :
    Render.interpolate root (pieces.flatMap written) = pieces.flatMap (fill [root]) := by
  induction pieces with
  | nil => exact Render.interpolate_nil root
  | cons piece rest inductionHypothesis =>
    obtain ⟨pieceWellFormed, restWellFormed⟩ := List.forall_mem_cons.1 wellFormed
    rw [List.flatMap_cons, List.flatMap_cons, ← inductionHypothesis restWellFormed]
    cases piece with
    | literal content =>
      exact Render.interpolate_append root (Text.skips_of_isBraceFree pieceWellFormed _)
    | placeholder content =>
      obtain ⟨free, isPath⟩ := isWellFormed_placeholder pieceWellFormed
      rw [written, Render.interpolate_of_read? root (Placeholder.read?_written free isPath _),
        fill, List.findSome?_cons]
      cases root.lookupText content.trim <;> rfl

/-- A search for a placeholder passes over a well-formed piece that is not spelled like it. -/
theorem skips_placeholder {content : Text} (free : content.isBraceFree) {piece : Piece}
    (wellFormed : piece.isWellFormed) (differ : piece.written ≠ Placeholder.written content)
    (after : Text) : Text.Skips (Placeholder.written content) piece.written after := by
  cases piece with
  | literal other => exact Text.skips_of_isBraceFree wellFormed after
  | placeholder other =>
    obtain ⟨otherFree, -⟩ := isWellFormed_placeholder wellFormed
    refine Placeholder.skips_written_written otherFree free (fun same => differ ?_) after
    rw [same]
    rfl

/-- Replacing one placeholder in a text of pieces replaces it piece by piece. -/
theorem replaceAll_flatMap_written {content : Text} (free : content.isBraceFree) (new : Text)
    {pieces : List Piece} (wellFormed : ∀ piece ∈ pieces, piece.isWellFormed) :
    Text.replaceAll (Placeholder.written content) new (pieces.flatMap written) =
      (pieces.map (substitute (Placeholder.written content) new)).flatMap written := by
  have nonempty : Placeholder.written content ≠ [] := List.cons_ne_nil _ _
  induction pieces with
  | nil => exact Text.replaceAll_of_cut?_eq_none rfl
  | cons piece rest inductionHypothesis =>
    obtain ⟨pieceWellFormed, restWellFormed⟩ := List.forall_mem_cons.1 wellFormed
    rw [List.flatMap_cons, List.map_cons, List.flatMap_cons, substitute,
      ← inductionHypothesis restWellFormed]
    by_cases spelled : piece.written = Placeholder.written content
    · rw [if_pos spelled, spelled, Text.replaceAll_append nonempty]
      rfl
    · rw [if_neg spelled]
      exact Text.replaceAll_append_of_skips nonempty new
        (skips_placeholder free pieceWellFormed spelled _)

end Piece

end Stencil
