/-
This file holds the blank characters, those with the Unicode property
`White_Space`, and trimming, which removes them at both ends of a text and
nowhere else. Two facts pin down what is left: its ends are not blank, and
the text is what is left with blanks around it.
-/

import Stencil.Text.Basic

namespace Stencil

namespace Text

/-- The code points with the property `White_Space`, as closed ranges. -/
def blankRanges : List (Nat × Nat) :=
  [(0x0009, 0x000D), (0x0020, 0x0020), (0x0085, 0x0085), (0x00A0, 0x00A0), (0x1680, 0x1680),
   (0x2000, 0x200A), (0x2028, 0x2029), (0x202F, 0x202F), (0x205F, 0x205F), (0x3000, 0x3000)]

/-- Whether a character has the property `White_Space`. -/
def isBlank (character : Char) : Bool :=
  blankRanges.any fun range => range.1 ≤ character.toNat && character.toNat ≤ range.2

/-- The text without the blanks at its end. -/
def trimEnd (text : Text) : Text :=
  (text.reverse.dropWhile isBlank).reverse

/-- The text without the blanks at its ends. -/
def trim (text : Text) : Text :=
  trimEnd (text.dropWhile isBlank)

@[simp] theorem trim_nil : trim [] = [] := rfl

/-- What trimming removes is blank. -/
theorem exists_eq_append_trim (text : Text) :
    ∃ front back : Text, text = front ++ trim text ++ back ∧
      (∀ character ∈ front, isBlank character) ∧ ∀ character ∈ back, isBlank character := by
  refine ⟨text.takeWhile isBlank, ((text.dropWhile isBlank).reverse.takeWhile isBlank).reverse,
    ?_, ?_, ?_⟩
  · have core : trimEnd (text.dropWhile isBlank) ++
        ((text.dropWhile isBlank).reverse.takeWhile isBlank).reverse = text.dropWhile isBlank := by
      rw [trimEnd, ← List.reverse_append, List.takeWhile_append_dropWhile, List.reverse_reverse]
    rw [trim, List.append_assoc, core, List.takeWhile_append_dropWhile]
  · intro character member
    exact List.all_eq_true.1 List.all_takeWhile character member
  · intro character member
    exact List.all_eq_true.1 List.all_takeWhile character (List.mem_reverse.1 member)

/-- Neither end of a trimmed text is blank. -/
theorem trim_eq_self {text : Text} (first : ∀ character ∈ text.head?, isBlank character = false)
    (last : ∀ character ∈ text.getLast?, isBlank character = false) : trim text = text := by
  have front : text.dropWhile isBlank = text := by
    cases text with
    | nil => rfl
    | cons character rest => simp [first character (by simp)]
  have back : text.reverse.dropWhile isBlank = text.reverse := by
    cases reversed : text.reverse with
    | nil => rfl
    | cons character rest =>
      have head : character ∈ text.getLast? := by
        rw [← List.head?_reverse, reversed]
        simp
      simp [last character head]
  rw [trim, front, trimEnd, back, List.reverse_reverse]

theorem trimEnd_append {back : Text} (blank : ∀ character ∈ back, isBlank character) (text : Text) :
    trimEnd (text ++ back) = trimEnd text := by
  rw [trimEnd, List.reverse_append, List.dropWhile_append_of_pos, trimEnd]
  exact fun character member => blank character (List.mem_reverse.1 member)

theorem isBlank_head?_dropWhile {text : Text} {character : Char}
    (first : character ∈ (text.dropWhile isBlank).head?) : isBlank character = false := by
  have stops := List.head?_dropWhile_not isBlank text
  rw [first] at stops
  exact stops

/-- Without the blanks at its end a text begins as before. -/
theorem trimEnd_isPrefix (text : Text) : trimEnd text <+: text := by
  rw [trimEnd, ← List.reverse_suffix, List.reverse_reverse]
  exact List.dropWhile_suffix isBlank

theorem isBlank_head?_trim {text : Text} {character : Char}
    (first : character ∈ text.trim.head?) : isBlank character = false := by
  obtain ⟨back, whole⟩ := trimEnd_isPrefix (text.dropWhile isBlank)
  have dropped : character ∈ (text.dropWhile isBlank).head? := by
    rw [← whole, List.head?_append, ← trim, first]
    rfl
  exact isBlank_head?_dropWhile dropped

theorem isBlank_getLast?_trim {text : Text} {character : Char}
    (last : character ∈ text.trim.getLast?) : isBlank character = false := by
  rw [trim, trimEnd, List.getLast?_reverse] at last
  exact isBlank_head?_dropWhile last

/-- Trimming removes all blanks around a text whose ends are not blank. -/
theorem trim_append {front core back : Text} (frontBlank : ∀ character ∈ front, isBlank character)
    (backBlank : ∀ character ∈ back, isBlank character)
    (first : ∀ character ∈ core.head?, isBlank character = false)
    (last : ∀ character ∈ core.getLast?, isBlank character = false) :
    trim (front ++ core ++ back) = core := by
  rw [List.append_assoc, trim, List.dropWhile_append_of_pos frontBlank]
  cases core with
  | nil =>
    have nothing : back.dropWhile isBlank = [] := by
      have dropped : (back ++ []).dropWhile isBlank = [] :=
        List.dropWhile_append_of_pos backBlank
      rwa [List.append_nil] at dropped
    rw [List.nil_append, nothing]
    rfl
  | cons character rest =>
    have kept : (character :: rest ++ back).dropWhile isBlank = character :: rest ++ back := by
      rw [List.cons_append, List.dropWhile_cons, first character rfl]
      rfl
    rw [kept, trimEnd_append backBlank]
    have trimmed := trim_eq_self first last
    rwa [trim, List.dropWhile_cons, first character rfl] at trimmed

/-- A text is another with blanks around it, and that one has none at its ends. -/
structure TrimsTo (text core : Text) : Prop where
  around : ∃ front back : Text, text = front ++ core ++ back ∧
    (∀ character ∈ front, isBlank character) ∧ ∀ character ∈ back, isBlank character
  first : ∀ character ∈ core.head?, isBlank character = false
  last : ∀ character ∈ core.getLast?, isBlank character = false

/-- Trimming finds the one text that has no blanks at its ends. -/
theorem trimsTo_iff {text core : Text} : text.TrimsTo core ↔ text.trim = core := by
  constructor
  · rintro ⟨⟨front, back, rfl, frontBlank, backBlank⟩, first, last⟩
    exact trim_append frontBlank backBlank first last
  · rintro rfl
    exact ⟨exists_eq_append_trim text, fun _ => isBlank_head?_trim, fun _ => isBlank_getLast?_trim⟩

end Text

end Stencil
