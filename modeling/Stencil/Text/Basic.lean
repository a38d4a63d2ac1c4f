/-
This file fixes what a text is. A text is the list of its characters, so that a
scanner takes it apart from the left and its laws are said by appending. Offsets
into a text count the bytes of its UTF-8 form, which is how editors and other
programs address it; the file relates the two countings: `size` is additive, a
checked split succeeds exactly at the offsets that lie between two characters,
and the unchecked pieces agree with it there.
-/

namespace Stencil

/-- A text, read from its first character on. -/
abbrev Text := List Char

namespace Text

/-! ### Size in bytes -/

/-- The number of bytes of the UTF-8 form. -/
def size : Text → Nat
  | [] => 0
  | character :: rest => character.utf8Size + size rest

@[simp] theorem size_nil : size [] = 0 := rfl

@[simp] theorem size_cons (character : Char) (rest : Text) :
    size (character :: rest) = character.utf8Size + size rest := rfl

@[simp] theorem size_append (before after : Text) :
    size (before ++ after) = size before + size after := by
  induction before with
  | nil => simp
  | cons character rest inductionHypothesis => simp [inductionHypothesis, Nat.add_assoc]

/-- Every character takes a byte at least. -/
theorem length_le_size (text : Text) : text.length ≤ size text := by
  induction text with
  | nil => simp
  | cons character rest inductionHypothesis =>
    have positive := character.utf8Size_pos
    simp only [List.length_cons, size_cons]
    omega

theorem size_eq_zero_iff {text : Text} : size text = 0 ↔ text = [] := by
  constructor
  · intro empty
    have bound := length_le_size text
    exact List.eq_nil_of_length_eq_zero (by omega)
  · rintro rfl
    rfl

/-! ### Pieces at byte offsets -/

/-- The characters that begin within the first `count` bytes. -/
def takeBytes : Text → Nat → Text
  | [], _ => []
  | character :: rest, count =>
    if count = 0 then [] else character :: takeBytes rest (count - character.utf8Size)

/-- The characters that begin after the first `count` bytes. -/
def dropBytes : Text → Nat → Text
  | [], _ => []
  | character :: rest, count =>
    if count = 0 then character :: rest else dropBytes rest (count - character.utf8Size)

theorem takeBytes_append_dropBytes (text : Text) (count : Nat) :
    takeBytes text count ++ dropBytes text count = text := by
  induction text generalizing count with
  | nil => rfl
  | cons character rest inductionHypothesis =>
    unfold takeBytes dropBytes
    split
    · rfl
    · simp [inductionHypothesis]

@[simp] theorem takeBytes_zero (text : Text) : takeBytes text 0 = [] := by
  cases text <;> simp [takeBytes]

@[simp] theorem dropBytes_zero (text : Text) : dropBytes text 0 = text := by
  cases text <;> simp [dropBytes]

@[simp] theorem takeBytes_size_append (before after : Text) :
    takeBytes (before ++ after) (size before) = before := by
  induction before with
  | nil => simp
  | cons character rest inductionHypothesis =>
    have positive := character.utf8Size_pos
    have nonzero : character.utf8Size + size rest ≠ 0 := by omega
    rw [List.cons_append, size_cons, takeBytes, if_neg nonzero, Nat.add_sub_cancel_left,
      inductionHypothesis]

@[simp] theorem dropBytes_size_append (before after : Text) :
    dropBytes (before ++ after) (size before) = after := by
  induction before with
  | nil => simp
  | cons character rest inductionHypothesis =>
    have positive := character.utf8Size_pos
    have nonzero : character.utf8Size + size rest ≠ 0 := by omega
    rw [List.cons_append, size_cons, dropBytes, if_neg nonzero, Nat.add_sub_cancel_left,
      inductionHypothesis]

/-! ### Boundaries -/

/-- The offset lies between two characters, at the start or at the end. -/
def IsBoundary (text : Text) (offset : Nat) : Prop :=
  ∃ before after, text = before ++ after ∧ size before = offset

/-- The two parts of a text around an offset; none when the offset lies inside a
character or beyond the end. -/
def splitAt? : Text → Nat → Option (Text × Text)
  | text, 0 => some ([], text)
  | [], _ + 1 => none
  | character :: rest, offset + 1 =>
    if character.utf8Size ≤ offset + 1 then
      (splitAt? rest (offset + 1 - character.utf8Size)).map fun parts =>
        (character :: parts.1, parts.2)
    else none

theorem splitAt?_eq_some_iff {text : Text} {offset : Nat} {before after : Text} :
    splitAt? text offset = some (before, after) ↔ text = before ++ after ∧ size before = offset := by
  induction text generalizing offset before after with
  | nil =>
    cases offset with
    | zero =>
      simp only [splitAt?, Option.some.injEq, Prod.mk.injEq, size_eq_zero_iff]
      constructor
      · rintro ⟨rfl, rfl⟩
        simp
      · rintro ⟨whole, rfl⟩
        exact ⟨rfl, by simpa using whole⟩
    | succ offset =>
      simp only [splitAt?, reduceCtorEq, false_iff, not_and]
      intro whole
      have empty : before = [] := (List.append_eq_nil_iff.1 whole.symm).1
      simp [empty]
  | cons character rest inductionHypothesis =>
    have positive := character.utf8Size_pos
    cases offset with
    | zero =>
      simp only [splitAt?, Option.some.injEq, Prod.mk.injEq, size_eq_zero_iff]
      constructor
      · rintro ⟨rfl, rfl⟩
        simp
      · rintro ⟨whole, rfl⟩
        exact ⟨rfl, by simpa using whole⟩
    | succ offset =>
      cases before with
      | nil =>
        simp only [splitAt?, size_nil]
        split <;> simp
      | cons head tail =>
        simp only [splitAt?, List.cons_append, List.cons.injEq, size_cons]
        split
        · simp only [Option.map_eq_some_iff, Prod.exists, Prod.mk.injEq, List.cons.injEq]
          constructor
          · rintro ⟨first, second, found, ⟨rfl, rfl⟩, rfl⟩
            obtain ⟨whole, bytes⟩ := inductionHypothesis.1 found
            exact ⟨⟨rfl, whole⟩, by omega⟩
          · rintro ⟨⟨rfl, whole⟩, bytes⟩
            exact ⟨tail, after, inductionHypothesis.2 ⟨whole, by omega⟩, ⟨rfl, rfl⟩, rfl⟩
        · simp only [reduceCtorEq, false_iff, not_and]
          rintro ⟨rfl, -⟩ bytes
          omega

/-- A text can be split at exactly its boundaries. -/
theorem splitAt?_isSome_iff {text : Text} {offset : Nat} :
    (splitAt? text offset).isSome ↔ text.IsBoundary offset := by
  simp only [Option.isSome_iff_exists, Prod.exists, splitAt?_eq_some_iff, IsBoundary]

theorem isBoundary_size_append (before after : Text) :
    IsBoundary (before ++ after) (size before) :=
  ⟨before, after, rfl, rfl⟩

end Text

end Stencil
