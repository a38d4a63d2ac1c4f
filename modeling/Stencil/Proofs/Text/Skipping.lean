/-
This file says when a search passes over the front of a text. `Skips word before after`
states that the word stands at no place that begins within `before`, also not where
it would run over into `after`. A search then goes on behind `before`, and since the
statement falls apart along appended texts, a text made of parts is searched part by
part. Words that mark something in a template begin with a brace, so texts without
that brace are skipped whatever follows; words that end something there end with a
brace, so texts without that one have no part in where such a word is found.
-/

import Stencil.Text.Search

namespace Stencil

namespace Text

/-- A word stands at no place that begins within the first text, which the second one
follows. -/
def Skips (word : Text) : Text → Text → Prop
  | [], _ => True
  | character :: before, after =>
    ¬ word <+: character :: (before ++ after) ∧ Skips word before after

@[simp] theorem skips_nil (word after : Text) : Skips word [] after :=
  trivial

@[simp] theorem skips_cons {word before after : Text} {character : Char} :
    Skips word (character :: before) after ↔
      ¬ word <+: character :: (before ++ after) ∧ Skips word before after :=
  Iff.rfl

theorem skips_append {word first second after : Text} :
    Skips word (first ++ second) after ↔
      Skips word first (second ++ after) ∧ Skips word second after := by
  induction first with
  | nil => simp
  | cons character rest inductionHypothesis =>
    simp only [List.cons_append, skips_cons, inductionHypothesis, List.append_assoc, and_assoc]

/-- A text without the first character of a word is skipped. -/
theorem skips_of_not_mem {head : Char} {tail before after : Text} (absent : head ∉ before) :
    Skips (head :: tail) before after := by
  induction before with
  | nil => trivial
  | cons character rest inductionHypothesis =>
    obtain ⟨differ, restAbsent⟩ : head ≠ character ∧ head ∉ rest := by simpa using absent
    refine ⟨fun starts => ?_, inductionHypothesis restAbsent⟩
    exact differ (List.cons_prefix_cons.1 starts).1

/-! ### Searching behind what is skipped -/

theorem isPrefixOf?_eq_none_iff {word text : Text} :
    word.isPrefixOf? text = none ↔ ¬ word <+: text := by
  rw [Option.eq_none_iff_forall_ne_some]
  constructor
  · rintro absent ⟨after, rfl⟩
    exact absent after (isPrefixOf?_append word after)
  · intro absent after found
    exact absent ⟨after, (isPrefixOf?_eq_some_iff.1 found).symm⟩

/-- Where a word does not stand at the front, the search goes on one character later. -/
theorem cut?_cons_of_absent {word rest : Text} {character : Char}
    (absent : ¬ word <+: character :: rest) :
    cut? word (character :: rest) =
      (cut? word rest).map fun parts => (character :: parts.1, parts.2) := by
  rw [cut?, isPrefixOf?_eq_none_iff.2 absent]

theorem cut?_append_of_skips {word before after : Text} (skips : Skips word before after) :
    cut? word (before ++ after) =
      (cut? word after).map fun parts => (before ++ parts.1, parts.2) := by
  induction before with
  | nil => simp
  | cons character rest inductionHypothesis =>
    obtain ⟨absent, restSkips⟩ := skips
    rw [List.cons_append, cut?_cons_of_absent absent, inductionHypothesis restSkips,
      Option.map_map]
    rfl

/-- A word at the front of a text is found there. -/
theorem cut?_append {word : Text} (nonempty : word ≠ []) (after : Text) :
    cut? word (word ++ after) = some ([], after) := by
  obtain ⟨character, tail, rfl⟩ := List.exists_cons_of_ne_nil nonempty
  rw [List.cons_append, cut?, ← List.cons_append, isPrefixOf?_append]

/-- A word behind a text that is skipped is found there. -/
theorem cut?_of_skips {word before after : Text} (nonempty : word ≠ [])
    (skips : Skips word before (word ++ after)) :
    cut? word (before ++ (word ++ after)) = some (before, after) := by
  rw [cut?_append_of_skips skips, cut?_append nonempty, Option.map_some, List.append_nil]

/-- The text before the first occurrence of a word is skipped. -/
theorem skips_of_cut? {word text before after : Text}
    (found : cut? word text = some (before, after)) : Skips word before (word ++ after) := by
  induction text generalizing before with
  | nil =>
    rw [cut?] at found
    split at found
    · obtain ⟨rfl, rfl⟩ : [] = before ∧ [] = after := by simpa using found
      trivial
    · simp at found
  | cons character rest inductionHypothesis =>
    by_cases stands : word <+: character :: rest
    · obtain ⟨remaining, whole⟩ := stands
      rw [cut?, ← whole, isPrefixOf?_append] at found
      obtain ⟨rfl, -⟩ : [] = before ∧ remaining = after := by simpa using found
      trivial
    · rw [cut?_cons_of_absent stands] at found
      obtain ⟨⟨front, back⟩, cut, same⟩ := Option.map_eq_some_iff.1 found
      obtain ⟨rfl, rfl⟩ : character :: front = before ∧ back = after := by simpa using same
      refine ⟨?_, inductionHypothesis cut⟩
      rwa [← List.append_assoc, ← eq_append_of_cut? cut]

/-- A text in which a word stands nowhere is skipped. -/
theorem skips_of_cut?_eq_none {word text : Text} (absent : cut? word text = none) :
    Skips word text [] := by
  induction text with
  | nil => trivial
  | cons character rest inductionHypothesis =>
    rw [cut?] at absent
    split at absent
    · simp at absent
    · rename_i missing
      refine ⟨?_, inductionHypothesis (by simpa using absent)⟩
      rw [List.append_nil]
      exact isPrefixOf?_eq_none_iff.1 missing

/-- What follows a word has no part in whether the text before the word is skipped. -/
theorem skips_append_right_iff {word before after : Text} :
    Skips word before (word ++ after) ↔ Skips word before word := by
  induction before with
  | nil => simp
  | cons character rest inductionHypothesis =>
    have longer : word.length ≤ (character :: (rest ++ word)).length := by
      simp only [List.length_cons, List.length_append]
      omega
    have same : word <+: character :: (rest ++ (word ++ after)) ↔
        word <+: character :: (rest ++ word) := by
      rw [← List.append_assoc, ← List.cons_append]
      constructor
      · intro starts
        exact List.prefix_of_prefix_length_le starts (List.prefix_append _ _) longer
      · intro starts
        exact starts.trans (List.prefix_append _ _)
    rw [skips_cons, skips_cons, same, inductionHypothesis]

/-- A longer text is cut at the same place. -/
theorem cut?_append_right {word text before after : Text} (nonempty : word ≠ [])
    (found : cut? word text = some (before, after)) (more : Text) :
    cut? word (text ++ more) = some (before, after ++ more) := by
  have skips : Skips word before (word ++ (after ++ more)) :=
    skips_append_right_iff.2 (skips_append_right_iff.1 (skips_of_cut? found))
  rw [eq_append_of_cut? found, List.append_assoc, List.append_assoc]
  exact cut?_of_skips nonempty skips

/-! ### Words that overlap themselves -/

/-- A text that does not hold a word is passed over up to the word behind it, unless it ends with a
front of the word behind which the word goes on as it began. -/
theorem skips_of_not_infix {word before : Text} (absent : ¬ word <:+: before)
    (apart : ∀ count < word.length, 0 < count → word.drop count <+: word →
      ¬ word.take count <:+ before) : Skips word before word := by
  induction before with
  | nil => trivial
  | cons character rest inductionHypothesis =>
    refine ⟨fun starts => ?_, inductionHypothesis ?_ ?_⟩
    · obtain ⟨tail, whole⟩ := starts
      rw [← List.cons_append] at whole
      rcases List.append_eq_append_iff.1 whole with ⟨between, whole', -⟩ | ⟨overlap, same, again⟩
      · exact absent ⟨[], between, whole'.symm⟩
      · -- The word begins within the text and goes on with its own beginning.
        have taken : word.take (character :: rest).length = character :: rest := by
          rw [same, List.take_left]
        have dropped : word.drop (character :: rest).length = overlap := by
          rw [same, List.drop_left]
        rcases Nat.lt_or_ge (character :: rest).length word.length with shorter | longer
        · refine apart _ shorter (Nat.succ_pos _) ?_ ?_
          · exact ⟨tail, by rw [dropped, ← again]⟩
          · exact ⟨[], taken⟩
        · rw [List.take_of_length_le longer] at taken
          exact absent (taken ▸ List.infix_refl _)
    · exact fun within => absent (within.trans (List.suffix_cons _ _).isInfix)
    · intro count bound positive border ends
      exact apart count bound positive border (ends.trans (List.suffix_cons _ _))

/-- No end of a word is also its front. -/
def Unbordered (word : Text) : Prop :=
  ∀ count < word.length, 0 < count → ¬ word.drop count <+: word

/-- A text that does not hold such a word is passed over up to the word behind it. -/
theorem Unbordered.skips {word before : Text} (unbordered : Unbordered word)
    (absent : ¬ word <:+: before) : Skips word before word :=
  skips_of_not_infix absent fun count bound positive border =>
    absurd border (unbordered count bound positive)

/-! ### Searching in front of text in which nothing ends -/

section

variable {word text more : Text} {last : Char}

/-- A front that ends in a character which the end of a text lacks ends before that end. -/
theorem exists_eq_append_of_getLast? {front rest : Text} (whole : text ++ more = front ++ rest)
    (ends : front.getLast? = some last) (absent : last ∉ more) :
    ∃ between, text = front ++ between ∧ rest = between ++ more := by
  rcases List.append_eq_append_iff.1 whole with ⟨beyond, rfl, rfl⟩ | ⟨between, rfl, rfl⟩
  · cases beyond with
    | nil => exact ⟨[], by simp, rfl⟩
    | cons character tail =>
      have member : last ∈ character :: tail := List.mem_of_getLast? (by simpa using ends)
      exact absurd (List.mem_append_left rest member) absent
  · exact ⟨between, rfl, rfl⟩

/-- Text without the last character of a word adds no place at which the word stands. -/
theorem infix_of_infix_append (ends : word.getLast? = some last) (absent : last ∉ more)
    (stands : word <:+: text ++ more) : word <:+: text := by
  obtain ⟨before, after, whole⟩ := stands
  have frontEnds : (before ++ word).getLast? = some last := by
    rw [List.getLast?_append, ends, Option.some_or]
  obtain ⟨between, rfl, -⟩ := exists_eq_append_of_getLast? whole.symm frontEnds absent
  exact List.infix_append _ _ _

/-- Text without the last character of a word has no part in where the word is first. -/
theorem cut?_append_of_not_mem (ends : word.getLast? = some last) (absent : last ∉ more) :
    cut? word (text ++ more) = (cut? word text).map fun parts => (parts.1, parts.2 ++ more) := by
  cases found : cut? word text with
  | none =>
    refine cut?_eq_none_iff.2 fun stands => ?_
    exact cut?_eq_none_iff.1 found (infix_of_infix_append ends absent stands)
  | some parts =>
    have nonempty : word ≠ [] := by
      rintro rfl
      contradiction
    exact cut?_append_right nonempty found more

end

/-! ### Replacing behind what is skipped -/

/-- What is skipped is copied. -/
theorem replaceAll_append_of_skips {word before after : Text} (nonempty : word ≠ []) (new : Text)
    (skips : Skips word before after) :
    replaceAll word new (before ++ after) = before ++ replaceAll word new after := by
  have passed := cut?_append_of_skips skips
  cases found : cut? word after with
  | none =>
    rw [found] at passed
    rw [replaceAll_of_cut?_eq_none passed, replaceAll_of_cut?_eq_none found]
  | some parts =>
    rw [found] at passed
    rw [replaceAll_of_cut?_eq_some nonempty passed, replaceAll_of_cut?_eq_some nonempty found]
    simp only [List.append_assoc]

/-- A word at the front gives way. -/
theorem replaceAll_append {word : Text} (nonempty : word ≠ []) (new after : Text) :
    replaceAll word new (word ++ after) = new ++ replaceAll word new after := by
  rw [replaceAll_of_cut?_eq_some nonempty (cut?_append nonempty after), List.nil_append]

end Text

end Stencil
