/-
This file shows that plain text around a template is left alone. Every tag and every
placeholder begins with an opening brace, so a text without one in front of a template
is copied by each pass. What is completed ends with a closing brace: an opener may run
over the end of a template into the text behind it, but when that text has no closing
brace nothing is completed there, and each pass treats the template as if it stood
alone. The texts of the data play no part in this, whatever they hold.
-/

import Stencil.Proofs.Render.LeftInPlace

namespace Stencil

/-! ### Expanding in front of it -/

namespace Block

variable {kind : BlockKind} {more : Text}

/-- Text without closing braces completes no block. -/
theorem contents?_append_of_not_mem (inside : Text) (absent : '}' ∉ more) :
    contents? kind (inside ++ more) =
      (contents? kind inside).map fun parts => (parts.1, parts.2.1, parts.2.2 ++ more) := by
  have closer : kind.closer.getLast? = some '}' := by cases kind <;> rfl
  rw [contents?, contents?, Text.cut?_append_of_not_mem (show _ = some '}' from rfl) absent]
  cases Text.cut? closeBraces inside with
  | none => rfl
  | some parts =>
    simp only [Option.map_some, Option.bind_some, Text.cut?_append_of_not_mem closer absent,
      Option.map_map]
    rfl

theorem contents?_eq_none_of_not_mem (absent : '}' ∉ more) : contents? kind more = none :=
  contents?_append_of_not_mem [] absent

end Block

namespace Render

/-- Text without closing braces behind a text is copied, and the blocks in front of it are
expanded as if it did not follow. -/
theorem expand_append_of_not_mem (kind : BlockKind) (root : Value) (text : Text) {more : Text}
    (absent : '}' ∉ more) : expand kind root (text ++ more) = expand kind root text ++ more := by
  cases opened : Text.cut? kind.opener text with
  | none =>
    rw [expand_of_no_opener root opened]
    cases straddling : Text.cut? kind.opener (text ++ more) with
    | none => exact expand_of_no_opener root straddling
    | some parts =>
      -- An opener that runs over the end leaves nothing behind it that could close it.
      obtain ⟨before, inside⟩ := parts
      have within : inside <:+ more := by
        have whole := Text.eq_append_of_cut? straddling
        rcases List.append_eq_append_iff.1 whole with ⟨between, -, split⟩ | ⟨between, same, -⟩
        · exact ⟨between, split.symm⟩
        · refine absurd ?_ (Text.cut?_eq_none_iff.1 opened)
          rw [same, List.append_assoc]
          exact List.infix_append' _ _ _
      have noClosing : '}' ∉ inside := fun member => absent (within.subset member)
      exact expand_of_unclosed root straddling (Block.contents?_eq_none_of_not_mem noClosing)
  | some parts =>
    obtain ⟨before, inside⟩ := parts
    have openedEarlier := Text.cut?_append_right kind.opener_ne_nil opened more
    cases closed : Block.contents? kind inside with
    | none =>
      rw [expand_of_unclosed root opened closed]
      refine expand_of_unclosed root openedEarlier ?_
      rw [Block.contents?_append_of_not_mem inside absent, closed, Option.map_none]
    | some contents =>
      obtain ⟨target, body, rest⟩ := contents
      have closedEarlier : Block.contents? kind (inside ++ more) =
          some (target, body, rest ++ more) := by
        rw [Block.contents?_append_of_not_mem inside absent, closed, Option.map_some]
      rw [expand_of_closed root opened closed ⟨0, 0⟩,
        expand_of_closed root openedEarlier closedEarlier ⟨0, 0⟩,
        expand_append_of_not_mem kind root rest absent, ← List.append_assoc]
termination_by text.length
decreasing_by
  have opened := Text.length_add_le_of_cut? opened
  have closed := Block.length_lt_of_contents? closed
  omega

end Render

/-! ### Filling in front of it -/

namespace Placeholder

theorem getLast?_written (content : Text) : (written content).getLast? = some '}' :=
  List.getLast?_append

/-- Where nothing is read in a text, nothing is read when text without closing braces follows. -/
theorem read?_append_eq_none {text more : Text} (unread : read? text = none)
    (absent : '}' ∉ more) : read? (text ++ more) = none := by
  cases read : read? (text ++ more) with
  | none => rfl
  | some parts =>
    obtain ⟨content, rest⟩ := parts
    obtain ⟨whole, isContent⟩ := read?_eq_some_iff_isContent.1 read
    obtain ⟨between, rfl, -⟩ :=
      Text.exists_eq_append_of_getLast? whole (getLast?_written content) absent
    rw [read?_eq_some_iff_isContent.2 ⟨rfl, isContent⟩] at unread
    contradiction

end Placeholder

namespace Render

theorem interpolate_of_not_mem (root : Value) {text : Text} (absent : '}' ∉ text) :
    interpolate root text = text := by
  induction text with
  | nil => exact interpolate_nil root
  | cons character rest inductionHypothesis =>
    have unread : Placeholder.read? (character :: rest) = none :=
      Placeholder.read?_append_eq_none (show Placeholder.read? [] = none from rfl) absent
    rw [interpolate_of_not_read root unread,
      inductionHypothesis (List.not_mem_of_not_mem_cons absent)]

/-- Text without closing braces behind a text is copied, and the placeholders in front of it are
filled as if it did not follow. -/
theorem interpolate_append_of_not_mem (root : Value) (text : Text) {more : Text}
    (absent : '}' ∉ more) : interpolate root (text ++ more) = interpolate root text ++ more := by
  cases text with
  | nil =>
    rw [interpolate_nil, List.nil_append, interpolate_of_not_mem root absent]
  | cons character rest =>
    cases read : Placeholder.read? (character :: rest) with
    | none =>
      have unread : Placeholder.read? (character :: (rest ++ more)) = none :=
        Placeholder.read?_append_eq_none read absent
      rw [interpolate_of_not_read root read, List.cons_append, List.cons_append,
        interpolate_of_not_read root unread, interpolate_append_of_not_mem root rest absent]
    | some parts =>
      obtain ⟨content, after⟩ := parts
      rw [interpolate_of_read? root read,
        interpolate_of_read? root (Placeholder.read?_append_right read more),
        interpolate_append_of_not_mem root after absent, List.append_assoc]
termination_by text.length
decreasing_by
  · simp
  · have shorter := Placeholder.length_lt_of_read? read
    simpa using shorter

end Render

/-! ### The page -/

namespace Render

theorem page_nil (root : Value) : page root [] = [] := by
  have nothing (kind : BlockKind) : expand kind root [] = [] :=
    expand_of_no_opener root (by cases kind <;> rfl)
  rw [page, afterBlocks, afterEach, nothing, nothing, interpolate_nil]

/-- Text without opening braces in front of a template is copied. -/
theorem page_append (root : Value) {before : Text} (absent : '{' ∉ before) (template : Text) :
    page root (before ++ template) = before ++ page root template := by
  have skips (tail after : Text) : Text.Skips ('{' :: tail) before after :=
    Text.skips_of_not_mem absent
  have skipsOpener (kind : BlockKind) (after : Text) : Text.Skips kind.opener before after := by
    cases kind <;> exact skips _ after
  rw [page, afterBlocks, afterEach, expand_append root (skipsOpener .each _),
    expand_append root (skipsOpener .loop _), interpolate_append root (skips _ _)]
  rfl

/-- Text without closing braces behind a template is copied. -/
theorem page_append_of_not_mem (root : Value) (template : Text) {after : Text}
    (absent : '}' ∉ after) : page root (template ++ after) = page root template ++ after := by
  rw [page, afterBlocks, afterEach, expand_append_of_not_mem .each root template absent,
    expand_append_of_not_mem .loop root _ absent, interpolate_append_of_not_mem root _ absent]
  rfl

end Render

/-- Text without opening braces in front of a template and text without closing braces behind it
stand in the page as they are, and between them stands the page of the template alone, also when
the template is malformed. With nothing between them the two are all that is rendered. -/
theorem render_between_plain_text (root : Value) (template : Text) {before after : Text}
    (noOpening : '{' ∉ before) (noClosing : '}' ∉ after) :
    (render root (before ++ template ++ after)).output =
        before ++ (render root template).output ++ after ∧
      (render root (before ++ after)).output = before ++ after := by
  have around (inner : Text) : Render.page root (before ++ inner ++ after) =
      before ++ Render.page root inner ++ after := by
    rw [Render.page_append_of_not_mem root _ noClosing, Render.page_append root noOpening]
  refine ⟨around template, ?_⟩
  calc (render root (before ++ after)).output
      = Render.page root (before ++ [] ++ after) := by
        rw [List.append_nil]
        rfl
    _ = before ++ Render.page root [] ++ after := around []
    _ = before ++ after := by rw [Render.page_nil, List.append_nil]

/-- A template that ends within a tag, which the text behind it would complete up to its target. -/
theorem render_between_plain_text_cut_tag :
    let root : Value := .record [(['x'], .text ['1'])]
    let template := Placeholder.written ['x'] ++ openBraces ++ "#each".toList
    '{' ∉ "<p>".toList ∧ '}' ∉ " rows</p>".toList ∧
      (render root ("<p>".toList ++ template ++ " rows</p>".toList)).output =
        "<p>1".toList ++ openBraces ++ "#each rows</p>".toList := by
  intro root template
  refine ⟨by decide, by decide, ?_⟩
  exact (render_between_plain_text root template (by decide) (by decide)).1.trans
    (by decide +kernel)

end Stencil
