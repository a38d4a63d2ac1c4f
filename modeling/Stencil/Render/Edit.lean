/-
This file changes a text at spans. `splice` copies the text between the spans and
puts the new texts in their places in one pass from the left. `apply` changes one
span of the text itself; doing so from the last span to the first is the other way
to make the edits, for which the spans before stay where they are.
-/

import Stencil.Marker.Basic

namespace Stencil

/-- A span of a text and what replaces it. -/
structure Edit where
  span : Span
  new : Text
  deriving DecidableEq, Repr

namespace Edit

/-- The text from an offset on, which is where the remaining text begins, with the edits
made. -/
def spliceFrom (offset : Nat) (remaining : Text) : List Edit → Text
  | [] => remaining
  | edit :: later =>
    remaining.takeBytes (edit.span.start - offset) ++ edit.new ++
      spliceFrom edit.span.stop (remaining.dropBytes (edit.span.stop - offset)) later

/-- The text with the edits made; their spans ascend and do not overlap. -/
def splice (text : Text) (edits : List Edit) : Text :=
  spliceFrom 0 text edits

@[simp] theorem splice_nil (text : Text) : splice text [] = text := rfl

/-- The text with one edit made. -/
def apply (edit : Edit) (text : Text) : Text :=
  text.takeBytes edit.span.start ++ edit.new ++ text.dropBytes edit.span.stop

/-- The text with the edits made one at a time, from the last to the first. -/
def applyFromEnd (text : Text) (edits : List Edit) : Text :=
  edits.foldr apply text

/-- The spans lie between characters of the text that begins at an offset, ascend, and do not
overlap. -/
def FitFrom (text : Text) (offset : Nat) : List Edit → Prop
  | [] => True
  | edit :: later => offset ≤ edit.span.start ∧ edit.span.start ≤ edit.span.stop ∧
      text.IsBoundary edit.span.start ∧ text.IsBoundary edit.span.stop ∧
      FitFrom text edit.span.stop later

/-- The spans lie between characters of the text, ascend, and do not overlap. -/
def Fit (text : Text) (edits : List Edit) : Prop :=
  FitFrom text 0 edits

/-- An edit between two texts puts its new text there and goes on behind it. -/
theorem spliceFrom_cons {offset : Nat} {before middle after : Text} {edit : Edit}
    {later : List Edit} (starts : edit.span.start = offset + before.size)
    (stops : edit.span.stop = offset + before.size + middle.size) :
    spliceFrom offset (before ++ middle ++ after) (edit :: later) =
      before ++ edit.new ++ spliceFrom edit.span.stop after later := by
  have front : edit.span.start - offset = before.size := by omega
  have back : edit.span.stop - offset = Text.size (before ++ middle) := by
    rw [Text.size_append]
    omega
  rw [spliceFrom, front, back, Text.dropBytes_size_append, List.append_assoc before middle after,
    Text.takeBytes_size_append]

end Edit

end Stencil
