/-
This file numbers the places of a text as an editor does: lines from one, and in
each line the characters from one. The line of a place counts the line feeds
before it and the column the characters since the last of them, so the number
depends on the text before the place only.
-/

import Stencil.Text.Basic

namespace Stencil

/-- A place in a text, as an editor shows it; both numbers count from one. -/
structure Position where
  line : Nat
  column : Nat
  deriving DecidableEq, Repr

namespace Text

/-- What follows the last line feed of a text, or all of it when there is none. -/
def lastLine (text : Text) : Text :=
  (text.reverse.takeWhile (· ≠ '\n')).reverse

@[simp] theorem lastLine_nil : lastLine [] = [] := rfl

theorem lastLine_append_singleton (text : Text) (character : Char) :
    lastLine (text ++ [character]) =
      if character = '\n' then [] else lastLine text ++ [character] := by
  by_cases feed : character = '\n' <;> simp [lastLine, feed]

end Text

namespace Position

/-- The place that follows a text. -/
def after (before : Text) : Position where
  line := before.count '\n' + 1
  column := before.lastLine.length + 1

@[simp] theorem after_nil : after [] = ⟨1, 1⟩ := rfl

/-- A line feed leads to the next line, every other character to the next column. -/
theorem after_append_singleton (before : Text) (character : Char) :
    after (before ++ [character]) =
      if character = '\n' then ⟨(after before).line + 1, 1⟩
      else ⟨(after before).line, (after before).column + 1⟩ := by
  by_cases feed : character = '\n'
  · simp [after, Text.lastLine_append_singleton, feed]
  · simp [after, Text.lastLine_append_singleton, feed]

/-- The place of an offset, which counts as the end of the text when it lies beyond;
none when the offset lies inside a character. -/
def ofOffset? (text : Text) (offset : Nat) : Option Position :=
  (text.splitAt? (min offset text.size)).map fun parts => after parts.1

@[simp] theorem ofOffset?_size_append (before rest : Text) :
    ofOffset? (before ++ rest) before.size = some (after before) := by
  have bound : min before.size (Text.size (before ++ rest)) = before.size := by
    rw [Text.size_append]
    omega
  rw [ofOffset?, bound, Text.splitAt?_eq_some_iff.2 ⟨rfl, rfl⟩]
  rfl

/-- Exactly the offsets between two characters, and those beyond the end, have a place. -/
theorem ofOffset?_isSome_iff {text : Text} {offset : Nat} :
    (ofOffset? text offset).isSome ↔ text.IsBoundary offset ∨ text.size ≤ offset := by
  rw [ofOffset?, Option.isSome_map, Text.splitAt?_isSome_iff]
  by_cases bound : text.size ≤ offset
  · rw [Nat.min_eq_right bound]
    simp only [bound, or_true, iff_true]
    exact ⟨text, [], by simp, rfl⟩
  · rw [Nat.min_eq_left (by omega)]
    simp [bound]

end Position

end Stencil
