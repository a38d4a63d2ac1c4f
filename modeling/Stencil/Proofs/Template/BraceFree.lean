/-
This file collects what the absence of braces gives. A search for a word that begins
with a brace passes over a text without braces, and over a placeholder whose content has
none unless the word is spelled there. The written placeholder is read back, the texts
that paths lead to in a value without braces have none, and a written integer has none.
-/

import Stencil.Proofs.Text.Skipping
import Stencil.Proofs.Marker.PlaceholderScan
import Stencil.Template

namespace Stencil

/-! ### Texts -/

namespace Text

theorem isBraceFree_iff {text : Text} : text.isBraceFree ↔ '{' ∉ text ∧ '}' ∉ text := by
  simp only [isBraceFree, List.all_eq_true, Bool.and_eq_true, decide_eq_true_eq]
  constructor
  · intro free
    exact ⟨fun member => (free _ member).1 rfl, fun member => (free _ member).2 rfl⟩
  · rintro ⟨openFree, closeFree⟩ character member
    exact ⟨fun same => openFree (same ▸ member), fun same => closeFree (same ▸ member)⟩

theorem isBraceFree_append {first second : Text} (firstFree : first.isBraceFree)
    (secondFree : second.isBraceFree) : isBraceFree (first ++ second) := by
  simp only [isBraceFree, List.all_append, Bool.and_eq_true]
  exact ⟨firstFree, secondFree⟩

theorem isBraceFree_of_isBlank {text : Text}
    (blank : ∀ character ∈ text, isBlank character) : text.isBraceFree := by
  refine isBraceFree_iff.2 ⟨fun member => ?_, fun member => ?_⟩
  · exact absurd (blank _ member) (by decide)
  · exact absurd (blank _ member) (by decide)

/-- A text without braces is skipped by every word that begins with opening braces. -/
theorem skips_of_isBraceFree {tail before : Text} (free : before.isBraceFree) (after : Text) :
    Skips ('{' :: tail) before after :=
  skips_of_not_mem (isBraceFree_iff.1 free).1

theorem skips_closeBraces {content : Text} (free : content.isBraceFree) (after : Text) :
    Skips closeBraces content after :=
  skips_of_not_mem (isBraceFree_iff.1 free).2

/-- Of a text without braces the first closing braces behind it are the first of all. -/
theorem cut?_closeBraces {content : Text} (free : content.isBraceFree) (after : Text) :
    cut? closeBraces (content ++ (closeBraces ++ after)) = some (content, after) :=
  cut?_of_skips (by decide) (skips_closeBraces free _)

/-- Two texts without braces that stand in front of closing braces are the same. -/
theorem eq_of_isBraceFree {first second before after : Text} (firstFree : first.isBraceFree)
    (secondFree : second.isBraceFree)
    (same : first ++ (closeBraces ++ before) = second ++ (closeBraces ++ after)) :
    first = second := by
  have found := cut?_closeBraces firstFree before
  rw [same, cut?_closeBraces secondFree after] at found
  exact (Prod.mk.inj (Option.some.inj found)).1.symm

/-- Trimming keeps a first character that is not blank. -/
theorem head?_trim_cons {character : Char} (inked : isBlank character = false) (rest : Text) :
    (trim (character :: rest)).head? = some character := by
  obtain ⟨front, back, whole, frontBlank, backBlank⟩ := exists_eq_append_trim (character :: rest)
  cases front with
  | cons head tail =>
    obtain ⟨rfl, -⟩ := List.cons.inj whole
    rw [frontBlank character List.mem_cons_self] at inked
    contradiction
  | nil =>
    cases trimmed : trim (character :: rest) with
    | cons head tail =>
      rw [trimmed] at whole
      obtain ⟨rfl, -⟩ := List.cons.inj whole
      rfl
    | nil =>
      rw [trimmed] at whole
      have member : character ∈ back := by
        rw [show back = character :: rest from whole.symm]
        exact List.mem_cons_self
      rw [backBlank character member] at inked
      contradiction

end Text

/-! ### Placeholders -/

namespace Placeholder

variable {content : Text}

theorem written_eq_cons (content : Text) :
    written content = '{' :: '{' :: (content ++ closeBraces) :=
  rfl

/-- The content of a placeholder is no tag. -/
theorem not_tag_of_isPath (isPath : isPath content.trim) (tail after : Text) :
    ¬ '#' :: tail <+: content ++ (closeBraces ++ after) := by
  cases content with
  | nil =>
    intro tag
    exact absurd (List.cons_prefix_cons.1 tag).1 (by decide)
  | cons character rest =>
    intro tag
    obtain ⟨rfl, -⟩ := List.cons_prefix_cons.1 tag
    have head := Text.head?_trim_cons (show Text.isBlank '#' = false by decide) rest
    simp [Placeholder.isPath, head] at isPath

/-- A search for a word with opening braces passes over a placeholder in which the word is not
spelled. -/
theorem skips_written {tail : Text} (free : content.isBraceFree) {after : Text}
    (differs : ¬ tail <+: content ++ (closeBraces ++ after)) :
    Text.Skips ('{' :: '{' :: tail) (written content) after := by
  have inner : Text.Skips ('{' :: '{' :: tail) (content ++ closeBraces) after :=
    Text.skips_append.2 ⟨Text.skips_of_isBraceFree free _, Text.skips_of_not_mem (by decide)⟩
  have second : ¬ '{' :: tail <+: content ++ (closeBraces ++ after) := by
    intro starts
    cases content with
    | nil => exact absurd (List.cons_prefix_cons.1 starts).1 (by decide)
    | cons character rest =>
      obtain ⟨rfl, -⟩ := List.cons_prefix_cons.1 starts
      exact (Text.isBraceFree_iff.1 free).1 List.mem_cons_self
  rw [written_eq_cons, Text.skips_cons, Text.skips_cons, List.cons_append, List.append_assoc]
  refine ⟨fun starts => ?_, fun starts => ?_, inner⟩
  · exact differs (List.cons_prefix_cons.1 (List.cons_prefix_cons.1 starts).2).2
  · exact second (List.cons_prefix_cons.1 starts).2

/-- A search for a tag passes over a placeholder. -/
theorem skips_written_tag (free : content.isBraceFree) (isPath : isPath content.trim)
    (tail after : Text) : Text.Skips ('{' :: '{' :: '#' :: tail) (written content) after :=
  skips_written free (not_tag_of_isPath isPath tail after)

/-- A search for one placeholder passes over another. -/
theorem skips_written_written {other : Text} (free : content.isBraceFree)
    (otherFree : other.isBraceFree) (differ : other ≠ content) (after : Text) :
    Text.Skips (written other) (written content) after := by
  rw [written_eq_cons other]
  refine skips_written free fun starts => differ ?_
  obtain ⟨behind, whole⟩ := starts
  rw [List.append_assoc] at whole
  exact Text.eq_of_isBraceFree otherFree free whole

/-- A written placeholder is read back. -/
theorem read?_written (free : content.isBraceFree) (isPath : isPath content.trim) (rest : Text) :
    read? (written content ++ rest) = some (content, rest) := by
  refine read?_eq_some_iff.2 ⟨content ++ (closeBraces ++ rest), ?_, ?_, isPath⟩
  · simp [written]
  · exact Text.cut?_closeBraces free rest

end Placeholder

/-! ### Values -/

namespace Value

/-- What segments lead to in a value without braces has none. -/
theorem BraceFree.walk? {value found : Value} {segments : List Text} (free : value.BraceFree)
    (walked : value.walk? segments = some found) : found.BraceFree := by
  induction segments generalizing value with
  | nil =>
    obtain rfl : value = found := by simpa using walked
    exact free
  | cons segment rest inductionHypothesis =>
    rw [walk?_cons] at walked
    obtain ⟨field, fieldFound, restWalked⟩ := Option.bind_eq_some_iff.1 walked
    refine inductionHypothesis ?_ restWalked
    cases free with
    | text => simp [field?, fields?] at fieldFound
    | list => simp [field?, fields?] at fieldFound
    | record each =>
      obtain ⟨before, after, rfl, -⟩ := List.lookup_eq_some_iff.1 fieldFound
      exact each (segment, field) (List.mem_append_right _ List.mem_cons_self)

theorem BraceFree.lookupText {value : Value} {path content : Text} (free : value.BraceFree)
    (found : value.lookupText path = some content) : content.isBraceFree := by
  obtain ⟨inner, walked, isText⟩ := Option.bind_eq_some_iff.1 found
  cases free.walk? walked with
  | text contentFree =>
    obtain rfl := Option.some.inj isText
    exact contentFree
  | list => simp [text?] at isText
  | record => simp [text?] at isText

theorem BraceFree.lookupItems {value item : Value} {path : Text} (free : value.BraceFree)
    (member : item ∈ (value.lookupItems path).getD []) : item.BraceFree := by
  cases found : value.lookupItems path with
  | none =>
    rw [found] at member
    exact absurd member List.not_mem_nil
  | some items =>
    rw [found] at member
    obtain ⟨inner, walked, isList⟩ := Option.bind_eq_some_iff.1 found
    cases free.walk? walked with
    | list each =>
      obtain rfl := Option.some.inj isList
      exact each item member
    | text => simp [items?] at isList
    | record => simp [items?] at isList

theorem BraceFree.of_text? {value : Value} {content : Text} (free : value.BraceFree)
    (isText : value.text? = some content) : content.isBraceFree := by
  have found : value.lookupText [] = some content := by
    rw [Value.lookupText, lookup_nil]
    exact isText
  exact free.lookupText found

end Value

/-! ### Integers -/

theorem Decimal.isBraceFree_digit {value : Nat} (small : value < 10) :
    Text.isBraceFree [digit value] := by
  have cases : value = 0 ∨ value = 1 ∨ value = 2 ∨ value = 3 ∨ value = 4 ∨ value = 5 ∨
      value = 6 ∨ value = 7 ∨ value = 8 ∨ value = 9 := by omega
  rcases cases with rfl | rfl | rfl | rfl | rfl | rfl | rfl | rfl | rfl | rfl <;> decide

theorem Decimal.isBraceFree_digits (value : Nat) : (digits value).isBraceFree := by
  induction value using digits.induct with
  | case1 value small =>
    rw [digits, if_pos small]
    exact isBraceFree_digit small
  | case2 value large inductionHypothesis =>
    rw [digits, if_neg large]
    exact Text.isBraceFree_append inductionHypothesis
      (isBraceFree_digit (Nat.mod_lt _ (by decide)))

theorem Integer.isBraceFree_print (value : Int) : (print value).isBraceFree := by
  rw [print]
  split
  · exact Text.isBraceFree_append (show Text.isBraceFree ['-'] by decide)
      (Decimal.isBraceFree_digits _)
  · exact Decimal.isBraceFree_digits _

end Stencil
