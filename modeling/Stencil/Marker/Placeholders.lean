/-
This file finds the placeholders in a text. At an opening pair of braces the
content runs to the first closing pair; without the blanks around it, it is the
path, which must not begin with the sign that marks a tag and must not run over a
line. Where no placeholder can be read the search goes on one character later, so
a placeholder may begin within braces that are none.
-/

import Stencil.Marker.Basic
import Stencil.Text.Search

namespace Stencil

namespace Placeholder

/-- Whether a character ends a line. -/
def isLineBreak (character : Char) : Bool :=
  character = '\n' || character = '\r' || character = '\u0085' || character = '\u2028' ||
    character = '\u2029'

/-- Whether a trimmed content names a path: it is no tag and stays on its line. -/
def isPath (path : Text) : Bool :=
  path.head? ≠ some '#' && !path.any isLineBreak

/-- The content of a placeholder at the front of a text, and the text behind it. -/
def read? (text : Text) : Option (Text × Text) :=
  (openBraces.isPrefixOf? text).bind fun inside =>
    (Text.cut? closeBraces inside).filter fun parts => isPath parts.1.trim

/-- A placeholder is read exactly as it is written, up to the first closing braces. -/
theorem read?_eq_some_iff {text content rest : Text} : read? text = some (content, rest) ↔
    ∃ inside, text = openBraces ++ inside ∧ Text.cut? closeBraces inside = some (content, rest) ∧
      isPath content.trim := by
  simp only [read?, Option.bind_eq_some_iff, Option.filter_eq_some_iff,
    Text.isPrefixOf?_eq_some_iff]

theorem eq_append_of_read? {text content rest : Text} (read : read? text = some (content, rest)) :
    text = written content ++ rest := by
  obtain ⟨inside, rfl, found, -⟩ := read?_eq_some_iff.1 read
  rw [Text.eq_append_of_cut? found, written]
  simp

theorem length_lt_of_read? {text content rest : Text} (read : read? text = some (content, rest)) :
    rest.length < text.length := by
  rw [eq_append_of_read? read]
  simp only [written, openBraces, closeBraces, List.length_append, List.length_cons,
    List.length_nil]
  omega

/-- The placeholders in the text that begins at an offset. -/
def scanFrom (offset : Nat) (text : Text) : List Placeholder :=
  match text with
  | [] => []
  | character :: rest =>
    match _found : read? (character :: rest) with
    | some (content, after) =>
      let stop := offset + (written content).size
      ⟨content.trim, ⟨offset, stop⟩⟩ :: scanFrom stop after
    | none => scanFrom (offset + character.utf8Size) rest
termination_by text.length
decreasing_by
  · exact length_lt_of_read? _found
  · simp

/-- The placeholders in a text. -/
def scan (text : Text) : List Placeholder :=
  scanFrom 0 text

@[simp] theorem scanFrom_nil (offset : Nat) : scanFrom offset [] = [] := by
  rw [scanFrom]

theorem scanFrom_of_read? {offset : Nat} {text content rest : Text}
    (read : read? text = some (content, rest)) :
    scanFrom offset text =
      ⟨content.trim, ⟨offset, offset + (written content).size⟩⟩ ::
        scanFrom (offset + (written content).size) rest := by
  cases text with
  | nil => exact absurd (length_lt_of_read? read) (Nat.not_lt_zero _)
  | cons character tail =>
    rw [scanFrom]
    split
    · rename_i content' rest' found
      rw [read] at found
      obtain ⟨rfl, rfl⟩ : content = content' ∧ rest = rest' := by simpa using found
      rfl
    · rename_i absent
      rw [read] at absent
      simp at absent

theorem scanFrom_of_not_read {offset : Nat} {character : Char} {rest : Text}
    (unread : read? (character :: rest) = none) :
    scanFrom offset (character :: rest) = scanFrom (offset + character.utf8Size) rest := by
  rw [scanFrom]
  split
  · rename_i found
    rw [unread] at found
    simp at found
  · rfl

end Placeholder

end Stencil
