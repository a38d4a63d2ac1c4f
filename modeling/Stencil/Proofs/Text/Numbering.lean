/-
This file says that the places of a text are numbered as one reads it. The line of a place is
counted from the front and its column from the back, behind the last line feed, and both
counts read slices by byte offsets. Still the numbers are those that reading character by
character gives: it starts in the first column of the first line, a line feed leads to the
first column of the next line and every other character, however many bytes it takes, to the
next column. So they ascend with the offsets, and nothing else is numbered that way.
-/

import Mathlib.Data.List.Induction
import Stencil.Proofs.Text.Position
import Stencil.Proofs.Text.Slice

namespace Stencil

namespace Text

/-! ### The last line -/

/-- The byte offset of the last place where a character stands. -/
def lastOffset? (character : Char) : Text → Option Nat
  | [] => none
  | head :: rest =>
    match lastOffset? character rest with
    | some offset => some (head.utf8Size + offset)
    | none => if head = character then some 0 else none

theorem lastOffset?_eq_none_iff {character : Char} {text : Text} :
    lastOffset? character text = none ↔ character ∉ text := by
  induction text with
  | nil => simp [lastOffset?]
  | cons head rest inductionHypothesis =>
    rw [lastOffset?, List.mem_cons, not_or, ← inductionHypothesis, eq_comm (a := character)]
    cases lastOffset? character rest <;> simp

theorem exists_of_lastOffset? {character : Char} {text : Text} {offset : Nat}
    (found : lastOffset? character text = some offset) :
    ∃ before after, text = before ++ character :: after ∧ character ∉ after ∧
      before.size = offset := by
  induction text generalizing offset with
  | nil => contradiction
  | cons head rest inductionHypothesis =>
    rw [lastOffset?] at found
    split at found
    · rename_i later foundLater
      obtain ⟨before, after, rfl, single, rfl⟩ := inductionHypothesis foundLater
      exact ⟨head :: before, after, rfl, single, Option.some.inj found⟩
    · rename_i absent
      obtain ⟨rfl, rfl⟩ : head = character ∧ 0 = offset := by simpa using found
      exact ⟨[], rest, rfl, lastOffset?_eq_none_iff.1 absent, rfl⟩

theorem lastLine_eq_self {text : Text} (single : '\n' ∉ text) : text.lastLine = text := by
  induction text using List.reverseRecOn with
  | nil => rfl
  | append_singleton before character inductionHypothesis =>
    rw [List.mem_append, not_or, List.mem_singleton] at single
    rw [lastLine_append_singleton, if_neg (Ne.symm single.2), inductionHypothesis single.1]

theorem lastLine_append_feed (before : Text) {line : Text} (single : '\n' ∉ line) :
    lastLine (before ++ '\n' :: line) = line := by
  induction line using List.reverseRecOn with
  | nil => exact (lastLine_append_singleton before '\n').trans (if_pos rfl)
  | append_singleton line character inductionHypothesis =>
    rw [List.mem_append, not_or, List.mem_singleton] at single
    rw [← List.cons_append, ← List.append_assoc, lastLine_append_singleton,
      if_neg (Ne.symm single.2), inductionHypothesis single.1]

end Text

namespace Position

/-! ### Searching and reading -/

/-- The place behind a text as it is searched for: the line feeds are counted, and the
characters behind the last of them. None when the slice behind it fails. -/
def searchBehind? (consumed : Text) : Option Position :=
  let line := consumed.count '\n' + 1
  match consumed.lastOffset? '\n' with
  | some feed => (consumed.sliceFrom? (feed + 1)).map fun rest => ⟨line, rest.length + 1⟩
  | none => some ⟨line, consumed.length + 1⟩

/-- The place of an offset as it is searched for in the slice in front of it. -/
def search? (text : Text) (offset : Nat) : Option Position :=
  (text.slice? 0 (min offset text.size)).bind searchBehind?

/-- The place that one more character leads to. -/
def next (place : Position) (character : Char) : Position :=
  if character = '\n' then ⟨place.line + 1, 1⟩ else ⟨place.line, place.column + 1⟩

theorem searchBehind?_eq (consumed : Text) : searchBehind? consumed = some (after consumed) := by
  cases found : consumed.lastOffset? '\n' with
  | none =>
    have line := Text.lastLine_eq_self (Text.lastOffset?_eq_none_iff.1 found)
    simp only [searchBehind?, found, after, line]
  | some feed =>
    obtain ⟨before, rest, rfl, single, rfl⟩ := Text.exists_of_lastOffset? found
    -- A line feed takes one byte, so the slice behind it begins at a boundary.
    have sliced : Text.sliceFrom? (before ++ '\n' :: rest) (before.size + 1) = some rest :=
      Text.sliceFrom?_eq_some_iff.2 ⟨before ++ ['\n'], by simp, Text.size_append before ['\n']⟩
    simp only [searchBehind?, found, sliced, after, Text.lastLine_append_feed before single,
      Option.map_some]

/-- Searching for a place fails where there is none, and finds it everywhere else. -/
theorem search?_eq_ofOffset? (text : Text) (offset : Nat) :
    search? text offset = ofOffset? text offset := by
  have whole : text.sliceFrom? 0 = some text := Text.sliceFrom?_append [] text
  rw [search?, Text.slice?, if_pos (Nat.zero_le _), whole, Option.bind_some, Nat.sub_zero,
    ofOffset?]
  cases text.splitAt? (min offset text.size) with
  | none => rfl
  | some parts => exact searchBehind?_eq parts.1

/-! ### The one numbering -/

theorem ofOffset?_of_size_le {text : Text} {offset : Nat} (beyond : text.size ≤ offset) :
    ofOffset? text offset = some (after text) := by
  have whole : text.splitAt? text.size = some (text, []) :=
    Text.splitAt?_eq_some_iff.2 ⟨(List.append_nil text).symm, rfl⟩
  rw [ofOffset?, Nat.min_eq_right beyond, whole]
  rfl

/-- Boundaries that share a place are one boundary. -/
theorem eq_of_place {text : Text} {first second : Nat} {place : Position}
    (firstBoundary : text.IsBoundary first) (secondBoundary : text.IsBoundary second)
    (firstPlace : ofOffset? text first = some place)
    (secondPlace : ofOffset? text second = some place) : first = second := by
  have apart : ∀ lower upper, text.IsBoundary lower → text.IsBoundary upper →
      ofOffset? text lower = some place → ofOffset? text upper = some place →
      ¬ lower < upper := by
    intro lower upper lowerBoundary upperBoundary lowerPlace upperPlace below
    obtain ⟨_, _, found, found', precedes⟩ := precedes_of_lt below lowerBoundary upperBoundary
    obtain rfl := Option.some.inj (lowerPlace.symm.trans found)
    obtain rfl := Option.some.inj (upperPlace.symm.trans found')
    exact precedes.irrefl
  exact Nat.le_antisymm
    (Nat.le_of_not_lt (apart _ _ secondBoundary firstBoundary secondPlace firstPlace))
    (Nat.le_of_not_lt (apart _ _ firstBoundary secondBoundary firstPlace secondPlace))

/-- What begins and goes on as reading does numbers the boundaries as places. -/
theorem eq_after_of_reading {text : Text} {number : Nat → Option Position}
    (begins : number 0 = some ⟨1, 1⟩)
    (goesOn : ∀ (before rest : Text) (character : Char) (place : Position),
      text = before ++ character :: rest → number before.size = some place →
        number (before.size + character.utf8Size) = some (place.next character))
    (before rest : Text) (whole : text = before ++ rest) :
    number before.size = some (after before) := by
  induction before using List.reverseRecOn generalizing rest with
  | nil => exact begins
  | append_singleton before character inductionHypothesis =>
    rw [List.append_assoc, List.singleton_append] at whole
    have step := goesOn before rest character _ whole (inductionHypothesis _ whole)
    rw [Text.size_append, after_append_singleton]
    exact step

end Position

/-- Places are numbered as one reads. Whatever offset is given, what is searched for is the
place of the offset. The text begins in the first column of the first line; a line feed leads
to the first column of the next line and every other character to the next column; and every
offset behind the end has the place of the end. The places of boundaries ascend with their
offsets, so no two boundaries share one, and whatever begins and goes on as reading does
numbers the boundaries alike. -/
theorem places_numbered_as_read (text : Text) :
    (∀ offset, Position.search? text offset = Position.ofOffset? text offset) ∧
      Position.ofOffset? text 0 = some ⟨1, 1⟩ ∧
      (∀ (before rest : Text) (character : Char), text = before ++ character :: rest →
        ∃ place, Position.ofOffset? text before.size = some place ∧
          Position.ofOffset? text (before.size + character.utf8Size) =
            some (if character = '\n' then ⟨place.line + 1, 1⟩
              else ⟨place.line, place.column + 1⟩)) ∧
      (∀ offset, text.size ≤ offset →
        ∃ place, Position.ofOffset? text text.size = some place ∧
          Position.ofOffset? text offset = some place) ∧
      (∀ first second, first < second → text.IsBoundary first → text.IsBoundary second →
        ∃ place place', Position.ofOffset? text first = some place ∧
          Position.ofOffset? text second = some place' ∧ place.Precedes place') ∧
      (∀ first second place, text.IsBoundary first → text.IsBoundary second →
        Position.ofOffset? text first = some place →
        Position.ofOffset? text second = some place → first = second) ∧
      ∀ number : Nat → Option Position, number 0 = some ⟨1, 1⟩ →
        (∀ (before rest : Text) (character : Char) (place : Position),
          text = before ++ character :: rest → number before.size = some place →
          number (before.size + character.utf8Size) = some (place.next character)) →
        ∀ offset, text.IsBoundary offset → number offset = Position.ofOffset? text offset := by
  refine ⟨Position.search?_eq_ofOffset? text, ?_, ?_, ?_, ?_, ?_, ?_⟩
  · exact Position.ofOffset?_size_append [] text
  · rintro before rest character rfl
    have behind := Position.ofOffset?_size_append (before ++ [character]) rest
    rw [List.append_assoc, List.singleton_append, Text.size_append,
      Position.after_append_singleton] at behind
    exact ⟨_, Position.ofOffset?_size_append before (character :: rest), behind⟩
  · intro offset beyond
    exact ⟨_, Position.ofOffset?_of_size_le (Nat.le_refl _), Position.ofOffset?_of_size_le beyond⟩
  · intro first second below firstBoundary secondBoundary
    exact Position.precedes_of_lt below firstBoundary secondBoundary
  · intro first second place firstBoundary secondBoundary firstPlace secondPlace
    exact Position.eq_of_place firstBoundary secondBoundary firstPlace secondPlace
  · rintro number begins goesOn offset ⟨before, rest, whole, rfl⟩
    rw [Position.eq_after_of_reading begins goesOn before rest whole, whole,
      Position.ofOffset?_size_append]

/-- A letter of two bytes takes one column, and the line feed behind it leads to the next line. -/
theorem places_numbered_as_read_accent :
    let text := ['a', 'é', '\n', 'b']
    Position.search? text 3 = some ⟨1, 3⟩ ∧ Position.ofOffset? text 3 = some ⟨1, 3⟩ ∧
      Position.ofOffset? text 4 = some ⟨2, 1⟩ ∧
      Position.ofOffset? text 9 = Position.ofOffset? text 5 ∧
      ∃ place place', Position.ofOffset? text 1 = some place ∧
        Position.ofOffset? text 3 = some place' ∧ place.Precedes place' := by
  intro text
  obtain ⟨searched, begins, steps, behind, ascend, -, -⟩ := places_numbered_as_read text
  have third : Position.ofOffset? text 3 = some ⟨1, 3⟩ := by decide
  obtain ⟨place, found, stepped⟩ := steps ['a', 'é'] ['b'] '\n' rfl
  obtain rfl : place = ⟨1, 3⟩ := Option.some.inj (found.symm.trans third)
  obtain ⟨last, atEnd, beyond⟩ := behind 9 (by decide)
  have first : Text.IsBoundary text 1 := ⟨['a'], ['é', '\n', 'b'], rfl, rfl⟩
  have second : Text.IsBoundary text 3 := ⟨['a', 'é'], ['\n', 'b'], rfl, rfl⟩
  exact ⟨(searched 3).trans third, third, stepped, beyond.trans atEnd.symm,
    ascend 1 3 (by decide) first second⟩

end Stencil
