/-
This file searches a text for a fixed word. `cut?` divides a text around the first
place where the word stands; what it returns is pinned down by two facts, that
nothing is lost and that the word stands nowhere earlier. Replacing every
occurrence is repeated cutting.
-/

import Stencil.Text.Basic

namespace Stencil

namespace Text

/-! ### What stands at the front -/

/-- Taking a word off the front of a text succeeds exactly when it stands there. -/
theorem isPrefixOf?_eq_some_iff {word text after : Text} :
    word.isPrefixOf? text = some after ↔ text = word ++ after := by
  induction word generalizing text with
  | nil =>
    show some text = some after ↔ text = after
    simp
  | cons character word inductionHypothesis =>
    cases text with
    | nil =>
      show none = some after ↔ [] = character :: (word ++ after)
      simp
    | cons head rest =>
      show (if character == head then word.isPrefixOf? rest else none) = some after ↔
        head :: rest = character :: (word ++ after)
      by_cases same : character = head
      · subst same
        simp [inductionHypothesis]
      · have differ : head ≠ character := Ne.symm same
        simp [same, differ]

theorem isPrefixOf?_append (word after : Text) : word.isPrefixOf? (word ++ after) = some after :=
  isPrefixOf?_eq_some_iff.2 rfl

/-! ### The first occurrence -/

/-- The text before the first occurrence of a word, and the text after it. -/
def cut? (word : Text) : Text → Option (Text × Text)
  | [] => if word = [] then some ([], []) else none
  | character :: rest =>
    match word.isPrefixOf? (character :: rest) with
    | some after => some ([], after)
    | none => (cut? word rest).map fun parts => (character :: parts.1, parts.2)

/-- Cutting loses nothing but the word. -/
theorem eq_append_of_cut? {word text before after : Text}
    (found : cut? word text = some (before, after)) : text = before ++ word ++ after := by
  induction text generalizing before with
  | nil =>
    rw [cut?] at found
    split at found
    · simp_all
    · simp at found
  | cons character rest inductionHypothesis =>
    rw [cut?] at found
    split at found
    · rename_i remaining stands
      obtain ⟨rfl, rfl⟩ : [] = before ∧ remaining = after := by simpa using found
      simpa using isPrefixOf?_eq_some_iff.1 stands
    · obtain ⟨parts, cut, same⟩ := Option.map_eq_some_iff.1 found
      obtain ⟨rfl, rfl⟩ : character :: parts.1 = before ∧ parts.2 = after := by simpa using same
      simp [← inductionHypothesis cut]

/-- A word that stands somewhere is found, and no later than there. -/
theorem exists_cut?_append (word before after : Text) :
    ∃ first rest, cut? word (before ++ word ++ after) = some (first, rest) ∧
      first.length ≤ before.length := by
  induction before with
  | nil =>
    cases whole : word ++ after with
    | nil =>
      obtain ⟨rfl, rfl⟩ := List.append_eq_nil_iff.1 whole
      exact ⟨[], [], rfl, Nat.le_refl 0⟩
    | cons character rest =>
      refine ⟨[], after, ?_, Nat.le_refl 0⟩
      rw [List.nil_append, whole, cut?, isPrefixOf?_eq_some_iff.2 whole.symm]
  | cons character before inductionHypothesis =>
    obtain ⟨first, rest, found, bound⟩ := inductionHypothesis
    rw [List.cons_append, List.cons_append, cut?]
    split
    · rename_i remaining stands
      exact ⟨[], remaining, rfl, Nat.zero_le _⟩
    · exact ⟨character :: first, rest, by rw [found]; rfl, Nat.succ_le_succ bound⟩

/-- The word stands nowhere before the place where the text is cut. -/
theorem length_le_of_cut? {word text first rest before after : Text}
    (found : cut? word text = some (first, rest)) (stands : text = before ++ word ++ after) :
    first.length ≤ before.length := by
  obtain ⟨first', rest', found', bound⟩ := exists_cut?_append word before after
  rw [← stands, found] at found'
  obtain ⟨rfl, rfl⟩ : first = first' ∧ rest = rest' := by simpa using found'
  exact bound

/-- Cutting fails exactly when the word stands nowhere. -/
theorem cut?_eq_none_iff {word text : Text} : cut? word text = none ↔ ¬ word <:+: text := by
  constructor
  · rintro missing ⟨before, after, stands⟩
    obtain ⟨first, rest, found, -⟩ := exists_cut?_append word before after
    rw [stands, missing] at found
    simp at found
  · intro absent
    cases found : cut? word text with
    | none => rfl
    | some parts => exact (absent ⟨parts.1, parts.2, (eq_append_of_cut? found).symm⟩).elim

/-- The text is divided around a word that stands nowhere earlier. -/
def FirstAt (word text before after : Text) : Prop :=
  text = before ++ word ++ after ∧
    ∀ before' after', text = before' ++ word ++ after' → before.length ≤ before'.length

/-- Cutting divides a text around the first occurrence, and does so wherever there is one. -/
theorem cut?_eq_some_iff {word text before after : Text} :
    cut? word text = some (before, after) ↔ FirstAt word text before after := by
  constructor
  · intro found
    exact ⟨eq_append_of_cut? found, fun _ _ stands => length_le_of_cut? found stands⟩
  · rintro ⟨stands, first⟩
    obtain ⟨before', after', found, bound⟩ := exists_cut?_append word before after
    rw [← stands] at found
    have whole := eq_append_of_cut? found
    have same : before'.length = before.length := Nat.le_antisymm bound (first _ _ whole)
    have divided : before' ++ (word ++ after') = before ++ (word ++ after) := by
      rw [← List.append_assoc, ← List.append_assoc, ← whole, stands]
    obtain ⟨rfl, rest⟩ := List.append_inj divided same
    obtain rfl := List.append_cancel_left rest
    exact found

/-- What follows the first occurrence of a word is shorter by the word at least. -/
theorem length_add_le_of_cut? {word text before after : Text}
    (found : cut? word text = some (before, after)) :
    after.length + word.length ≤ text.length := by
  rw [eq_append_of_cut? found]
  simp only [List.length_append]
  omega

/-- Whether a word stands somewhere in a text. -/
def occursIn (word text : Text) : Bool :=
  (cut? word text).isSome

theorem occursIn_iff {word text : Text} : occursIn word text ↔ word <:+: text := by
  rw [occursIn, ← Option.not_isNone, Bool.not_eq_true', Bool.eq_false_iff, Ne,
    Option.isNone_iff_eq_none, cut?_eq_none_iff, Classical.not_not]

/-! ### Replacing every occurrence -/

/-- The text with every occurrence of a word, taken from the left, replaced. The empty
word occurs nowhere. -/
def replaceAll (word new text : Text) : Text :=
  if word = [] then text
  else
    match _found : cut? word text with
    | none => text
    | some (before, after) => before ++ new ++ replaceAll word new after
termination_by text.length
decreasing_by
  have bound := length_add_le_of_cut? _found
  have positive : 0 < word.length := List.length_pos_iff.2 ‹_›
  omega

theorem replaceAll_of_cut?_eq_none {word new text : Text} (absent : cut? word text = none) :
    replaceAll word new text = text := by
  rw [replaceAll]
  split
  · rfl
  · split
    · rfl
    · rename_i found
      rw [absent] at found
      simp at found

theorem replaceAll_of_cut?_eq_some {word new text before after : Text} (nonempty : word ≠ [])
    (found : cut? word text = some (before, after)) :
    replaceAll word new text = before ++ new ++ replaceAll word new after := by
  rw [replaceAll, if_neg nonempty]
  split
  · rename_i absent
    rw [found] at absent
    simp at absent
  · rename_i before' after' found'
    rw [found] at found'
    obtain ⟨rfl, rfl⟩ : before = before' ∧ after = after' := by simpa using found'
    rfl

end Text

end Stencil
