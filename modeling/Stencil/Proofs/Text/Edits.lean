/-
This file shows that the edit distance is the least number of edits between two texts. An edit
puts one character into a text, takes one out or changes one, wherever it stands. One edit brings
a text nearer to any other by one at most, so no row of edits is shorter than the distance. And
each entry of the table names an edit to begin with, at the front of the text, so there is a row
as short as the distance.
-/

import Mathlib.Order.Bounds.Defs
import Stencil.Text.EditDistance

namespace Stencil

namespace Text

variable {first middle second : Text} {count : Nat}

/-! ### Edits -/

/-- A text turns into another when one character is put in, taken out or changed. -/
inductive OneEdit : Text → Text → Prop where
  | insert (before after : Text) (character : Char) :
      OneEdit (before ++ after) (before ++ character :: after)
  | delete (before after : Text) (character : Char) :
      OneEdit (before ++ character :: after) (before ++ after)
  | change (before after : Text) (character other : Char) :
      OneEdit (before ++ character :: after) (before ++ other :: after)

/-- A text turns into another by so many edits, one after the other. -/
inductive Edits : Nat → Text → Text → Prop where
  | none (text : Text) : Edits 0 text text
  | more {count : Nat} {first middle second : Text} (edit : OneEdit first middle)
      (later : Edits count middle second) : Edits (count + 1) first second

theorem OneEdit.cons (edit : OneEdit first second) (head : Char) :
    OneEdit (head :: first) (head :: second) := by
  cases edit with
  | insert before after character => exact .insert (head :: before) after character
  | delete before after character => exact .delete (head :: before) after character
  | change before after character other => exact .change (head :: before) after character other

theorem Edits.cons (edits : Edits count first second) (head : Char) :
    Edits count (head :: first) (head :: second) := by
  induction edits with
  | none text => exact .none (head :: text)
  | more edit _ inductionHypothesis => exact .more (edit.cons head) inductionHypothesis

/-! ### No row of edits is shorter -/

theorem editDistance_self (text : Text) : editDistance text text = 0 := by
  induction text with
  | nil => rfl
  | cons character rest inductionHypothesis =>
    rw [editDistance_cons_cons, inductionHypothesis, if_pos rfl, Nat.add_zero, Nat.min_zero]

theorem editDistance_cons_le (character : Char) (first second : Text) :
    editDistance (character :: first) second ≤ editDistance first second + 1 := by
  cases second with
  | nil => simp only [editDistance_nil_right, List.length_cons, Nat.le_refl]
  | cons other rest =>
    rw [editDistance_cons_cons]
    omega

theorem editDistance_cons_right_le (character : Char) (first second : Text) :
    editDistance first (character :: second) ≤ editDistance first second + 1 := by
  cases first with
  | nil => simp only [editDistance_nil_left, List.length_cons, Nat.le_refl]
  | cons other rest =>
    rw [editDistance_cons_cons]
    omega

theorem editDistance_le_cons (character : Char) (first second : Text) :
    editDistance first second ≤ editDistance (character :: first) second + 1 := by
  induction second with
  | nil =>
    simp only [editDistance_nil_right, List.length_cons]
    omega
  | cons other rest inductionHypothesis =>
    have longer := editDistance_cons_right_le other first rest
    rw [editDistance_cons_cons]
    omega

theorem editDistance_change_le (character other : Char) (first second : Text) :
    editDistance (character :: first) second ≤ editDistance (other :: first) second + 1 := by
  induction second with
  | nil => simp only [editDistance_nil_right, List.length_cons, Nat.le_add_right]
  | cons head rest inductionHypothesis =>
    rw [editDistance_cons_cons, editDistance_cons_cons]
    split <;> split <;> omega

/-- What holds of the distances to every text holds of them behind one more character. -/
theorem editDistance_cons_le_cons
    (near : ∀ second, editDistance first second ≤ editDistance middle second + 1)
    (character : Char) (second : Text) :
    editDistance (character :: first) second ≤ editDistance (character :: middle) second + 1 := by
  induction second with
  | nil =>
    have lengths := near []
    simp only [editDistance_nil_right, List.length_cons] at lengths ⊢
    omega
  | cons other rest inductionHypothesis =>
    have whole := near (other :: rest)
    have behind := near rest
    rw [editDistance_cons_cons, editDistance_cons_cons]
    omega

theorem editDistance_append_le
    (near : ∀ second, editDistance first second ≤ editDistance middle second + 1)
    (before second : Text) :
    editDistance (before ++ first) second ≤ editDistance (before ++ middle) second + 1 := by
  induction before generalizing second with
  | nil => exact near second
  | cons character before inductionHypothesis =>
    exact editDistance_cons_le_cons inductionHypothesis character second

/-- One edit brings a text nearer to any other by one at most. -/
theorem OneEdit.editDistance_le (edit : OneEdit first middle) (second : Text) :
    editDistance first second ≤ editDistance middle second + 1 := by
  cases edit with
  | insert before after character =>
    exact editDistance_append_le (editDistance_le_cons character after) before second
  | delete before after character =>
    exact editDistance_append_le (editDistance_cons_le character after) before second
  | change before after character other =>
    exact editDistance_append_le (editDistance_change_le character other after) before second

theorem Edits.editDistance_le (edits : Edits count first second) :
    editDistance first second ≤ count := by
  induction edits with
  | none text => exact Nat.le_of_eq (editDistance_self text)
  | more edit _ inductionHypothesis =>
    exact Nat.le_trans (edit.editDistance_le _) (Nat.add_le_add_right inductionHypothesis 1)

/-! ### A row as short as the distance -/

theorem edits_nil_left (second : Text) : Edits second.length [] second := by
  induction second with
  | nil => exact .none []
  | cons character rest inductionHypothesis =>
    exact .more (.insert [] [] character) (inductionHypothesis.cons character)

/-- The entry of the table that is least begins with an edit of the first character, or with none
where the two texts begin alike. -/
theorem edits_editDistance (first second : Text) :
    Edits (editDistance first second) first second := by
  induction first generalizing second with
  | nil => simpa using edits_nil_left second
  | cons character first shorterFirst =>
    have deleted : OneEdit (character :: first) first := .delete [] first character
    induction second with
    | nil =>
      rw [editDistance_nil_right]
      simpa using Edits.more deleted (shorterFirst [])
    | cons other second shorterSecond =>
      have least : editDistance (character :: first) (other :: second) =
            editDistance first (other :: second) + 1 ∨
          editDistance (character :: first) (other :: second) =
            editDistance (character :: first) second + 1 ∨
          editDistance (character :: first) (other :: second) =
            editDistance first second + if character = other then 0 else 1 := by
        rw [editDistance_cons_cons]
        omega
      rcases least with same | same | same
      · rw [same]
        exact .more deleted (shorterFirst (other :: second))
      · rw [same]
        exact .more (.insert [] (character :: first) other) (shorterSecond.cons other)
      · rw [same]
        split
        · rename_i alike
          rw [alike]
          exact (shorterFirst second).cons other
        · exact .more (.change [] first character other) ((shorterFirst second).cons other)

/-- The edit distance is the least number of edits that turn one text into another. -/
theorem isLeast_editDistance (first second : Text) :
    IsLeast {count | Edits count first second} (editDistance first second) :=
  ⟨edits_editDistance first second, fun _ edits => edits.editDistance_le⟩

theorem editDistance_eq_zero_iff : editDistance first second = 0 ↔ first = second := by
  constructor
  · intro zero
    have edits := edits_editDistance first second
    rw [zero] at edits
    cases edits
    rfl
  · rintro rfl
    exact editDistance_self first

end Text

end Stencil
