/-
This file speaks of the places of a text by byte offsets. A word stands at an offset
when the text divides there into what comes before, the word and what comes after;
`FirstFrom` is the first such offset at or behind a given one. Every such offset is a
boundary. Cutting a text, which knows of no offsets, finds the first place behind the
front that was cut off before, and fails exactly when there is none.
-/

import Stencil.Text.Search

namespace Stencil

namespace Text

/-- A word stands at a byte offset of a text. -/
def StandsAt (word text : Text) (offset : Nat) : Prop :=
  ∃ before after, text = before ++ word ++ after ∧ before.size = offset

/-- An offset is the first one, at or behind another, at which a word stands. -/
def FirstFrom (word text : Text) (start offset : Nat) : Prop :=
  start ≤ offset ∧ StandsAt word text offset ∧
    ∀ other, start ≤ other → StandsAt word text other → offset ≤ other

/-! ### Two divisions of one text -/

/-- Of two divisions of a text the one with the smaller front divides first. -/
theorem exists_eq_append_of_size_le {front rest before after : Text}
    (same : front ++ rest = before ++ after) (bound : front.size ≤ before.size) :
    ∃ middle, before = front ++ middle ∧ rest = middle ++ after := by
  rcases List.append_eq_append_iff.1 same with ⟨middle, rfl, rfl⟩ | ⟨middle, rfl, rfl⟩
  · exact ⟨middle, rfl, rfl⟩
  · have empty : middle = [] := by
      rw [size_append] at bound
      exact size_eq_zero_iff.1 (by omega)
    subst empty
    exact ⟨[], by simp, by simp⟩

/-- Divisions at one offset are the same division. -/
theorem append_inj_of_size_eq {front rest before after : Text}
    (same : front ++ rest = before ++ after) (sizes : front.size = before.size) :
    front = before ∧ rest = after := by
  obtain ⟨middle, rfl, rfl⟩ := exists_eq_append_of_size_le same (Nat.le_of_eq sizes)
  have empty : middle = [] := by
    rw [size_append] at sizes
    exact size_eq_zero_iff.1 (by omega)
  subst empty
  exact ⟨(List.append_nil _).symm, rfl⟩

/-! ### Standing at an offset -/

theorem standsAt_size_append (before word after : Text) :
    StandsAt word (before ++ word ++ after) before.size :=
  ⟨before, after, rfl, rfl⟩

theorem StandsAt.isBoundary {word text : Text} {offset : Nat} (stands : StandsAt word text offset) :
    text.IsBoundary offset := by
  obtain ⟨before, after, rfl, rfl⟩ := stands
  rw [List.append_assoc]
  exact isBoundary_size_append before (word ++ after)

/-- Where a word ends there is a boundary as well. -/
theorem StandsAt.isBoundary_end {word text : Text} {offset : Nat}
    (stands : StandsAt word text offset) : text.IsBoundary (offset + word.size) := by
  obtain ⟨before, after, rfl, rfl⟩ := stands
  rw [← size_append]
  exact isBoundary_size_append (before ++ word) after

theorem StandsAt.le_size {word text : Text} {offset : Nat} (stands : StandsAt word text offset) :
    offset + word.size ≤ text.size := by
  obtain ⟨before, after, rfl, rfl⟩ := stands
  rw [size_append, size_append]
  omega

/-- What stands behind a front stands in the rest of the text. -/
theorem standsAt_size_add {word front rest : Text} {offset : Nat} :
    StandsAt word (front ++ rest) (front.size + offset) ↔ StandsAt word rest offset := by
  constructor
  · rintro ⟨before, after, whole, sizes⟩
    rw [List.append_assoc] at whole
    obtain ⟨middle, rfl, rfl⟩ := exists_eq_append_of_size_le whole (by omega)
    refine ⟨middle, after, (List.append_assoc ..).symm, ?_⟩
    rw [size_append] at sizes
    omega
  · rintro ⟨before, after, rfl, rfl⟩
    exact ⟨front ++ before, after, by simp, size_append front before⟩

/-- Two pieces of one size at one offset are the same piece. -/
theorem StandsAt.eq_of_size_eq {first second text : Text} {offset : Nat}
    (firstStands : StandsAt first text offset) (secondStands : StandsAt second text offset)
    (sizes : first.size = second.size) : first = second := by
  obtain ⟨before, after, rfl, rfl⟩ := firstStands
  obtain ⟨before', after', whole, same⟩ := secondStands
  rw [List.append_assoc, List.append_assoc] at whole
  obtain ⟨-, rest⟩ := append_inj_of_size_eq whole same.symm
  exact (append_inj_of_size_eq rest sizes).1

/-- Where a word stands its parts stand. -/
theorem StandsAt.inner (front middle back : Text) {text : Text} {offset : Nat}
    (stands : StandsAt (front ++ middle ++ back) text offset) :
    StandsAt middle text (offset + front.size) := by
  obtain ⟨before, after, rfl, rfl⟩ := stands
  exact ⟨before ++ front, back ++ after, by simp, size_append before front⟩

/-- A character that stands within a word is one of the word. -/
theorem StandsAt.mem_of_within {word text : Text} {character : Char} {offset place : Nat}
    (stands : StandsAt word text offset) (single : StandsAt [character] text place)
    (behind : offset ≤ place) (within : place < offset + word.size) : character ∈ word := by
  obtain ⟨before, after, rfl, rfl⟩ := stands
  obtain ⟨before', after', whole, rfl⟩ := single
  rw [List.append_assoc, List.append_assoc] at whole
  obtain ⟨middle, rfl, divided⟩ := exists_eq_append_of_size_le whole behind
  rw [size_append] at within
  rcases List.append_eq_append_iff.1 divided with ⟨beyond, rfl, -⟩ | ⟨inside, rfl, rest⟩
  · rw [size_append] at within
    omega
  · cases inside with
    | nil =>
      rw [List.append_nil] at within
      omega
    | cons head tail =>
      obtain ⟨rfl, -⟩ := List.cons.inj rest
      exact List.mem_append_right _ List.mem_cons_self

/-- Two words without a common character do not overlap. -/
theorem StandsAt.apart {first second text : Text} {offset other : Nat}
    (firstStands : StandsAt first text offset) (secondStands : StandsAt second text other)
    (firstNonempty : first ≠ []) (secondNonempty : second ≠ [])
    (differ : ∀ character ∈ first, character ∉ second) :
    offset + first.size ≤ other ∨ other + second.size ≤ offset := by
  obtain ⟨head, tail, rfl⟩ := List.exists_cons_of_ne_nil firstNonempty
  obtain ⟨head', tail', rfl⟩ := List.exists_cons_of_ne_nil secondNonempty
  have single : StandsAt [head] text offset := inner [] [head] tail firstStands
  have single' : StandsAt [head'] text other := inner [] [head'] tail' secondStands
  rcases Nat.lt_or_ge other offset with before | behind
  · rcases Nat.lt_or_ge offset (other + size (head' :: tail')) with within | beyond
    · have common := secondStands.mem_of_within single (by omega) within
      exact absurd common (differ head List.mem_cons_self)
    · exact Or.inr beyond
  · rcases Nat.lt_or_ge other (offset + size (head :: tail)) with within | beyond
    · have common := firstStands.mem_of_within single' behind within
      exact absurd List.mem_cons_self (differ head' common)
    · exact Or.inl beyond

/-- Of two words that stand at one offset one begins with the other. -/
theorem StandsAt.prefix_or_prefix {first second text : Text} {offset : Nat}
    (firstStands : StandsAt first text offset) (secondStands : StandsAt second text offset) :
    first <+: second ∨ second <+: first := by
  obtain ⟨before, after, rfl, rfl⟩ := firstStands
  obtain ⟨before', after', whole, same⟩ := secondStands
  rw [List.append_assoc, List.append_assoc] at whole
  obtain ⟨-, rest⟩ := append_inj_of_size_eq whole same.symm
  exact List.prefix_or_prefix_of_prefix (List.prefix_append first after)
    (rest ▸ List.prefix_append second after')

/-! ### The first offset -/

theorem FirstFrom.unique {word text : Text} {start first second : Nat}
    (firstFrom : FirstFrom word text start first) (secondFrom : FirstFrom word text start second) :
    first = second :=
  Nat.le_antisymm (firstFrom.2.2 second secondFrom.1 secondFrom.2.1)
    (secondFrom.2.2 first firstFrom.1 firstFrom.2.1)

/-! ### Cutting -/

/-- Cutting the rest of a text finds the first place behind the front. -/
theorem firstFrom_of_cut? {word text front rest before after : Text}
    (found : cut? word rest = some (before, after)) (whole : text = front ++ rest) :
    FirstFrom word text front.size (front.size + before.size) := by
  subst whole
  obtain ⟨divided, first⟩ := cut?_eq_some_iff.1 found
  refine ⟨by omega, standsAt_size_add.2 ⟨before, after, divided, rfl⟩,
    fun other behind stands => ?_⟩
  obtain ⟨distance, rfl⟩ := Nat.exists_eq_add_of_le behind
  obtain ⟨before', after', divided', rfl⟩ := standsAt_size_add.1 stands
  have shorter := first before' after' divided'
  rw [divided, List.append_assoc, List.append_assoc] at divided'
  rcases List.append_eq_append_iff.1 divided' with ⟨middle, rfl, -⟩ | ⟨middle, rfl, -⟩
  · rw [size_append]
    omega
  · have empty : middle = [] := by
      rw [List.length_append] at shorter
      exact List.eq_nil_of_length_eq_zero (by omega)
    subst empty
    exact Nat.le_of_eq (by rw [List.append_nil])

/-- Cutting the rest of a text succeeds where the word stands behind the front. -/
theorem exists_cut?_of_standsAt {word text front rest : Text} {offset : Nat}
    (stands : StandsAt word text offset) (whole : text = front ++ rest)
    (behind : front.size ≤ offset) : ∃ before after, cut? word rest = some (before, after) := by
  subst whole
  obtain ⟨distance, rfl⟩ := Nat.exists_eq_add_of_le behind
  obtain ⟨before, after, rfl, -⟩ := standsAt_size_add.1 stands
  obtain ⟨first, last, found, -⟩ := exists_cut?_append word before after
  exact ⟨first, last, found⟩

end Text

end Stencil
