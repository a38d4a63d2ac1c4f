/-
This file says when an opener that stands in a page is reported. The pass over the
blocks of its kind removes every opener that it completes, so one that is left over
was in the body of a block, which is reported, or nothing closed it. The template is
searched for openers that nothing closes, the text that the first pass writes is not:
when an `each` block takes the closer of a `for` block with it, the opener of the
`for` block stays without a report. Nor does a pass read again what it has written,
so it can put an opener together that no text held before.
-/

import Stencil.Proofs.Render.Reports
import Stencil.Proofs.Render.Stretches

namespace Stencil

/-- An opener of a kind is reported: that nothing closes it, or that it stands in the body of a
block of its kind. -/
def Warning.ReportsOpener (kind : BlockKind) (warnings : List Warning) : Prop :=
  (∃ offset, .unclosedBlock kind offset ∈ warnings) ∨ ∃ path, .nestedBlock kind path ∈ warnings

theorem BlockKind.brace_mem_opener (kind : BlockKind) : '{' ∈ kind.opener := by
  cases kind <;> decide

theorem Text.not_infix_of_isBraceFree {word text : Text} (braced : '{' ∈ word)
    (free : text.isBraceFree) : ¬ word <:+: text :=
  fun within => (isBraceFree_iff.1 free).1 (within.subset braced)

namespace Render

/-! ### The openers that a pass leaves -/

section

variable {root : Value} {text : Text} {kind : BlockKind}

/-- An opener in stretches that are copied from a text or have no brace was in that text, or it
arises in the stretches. -/
theorem opener_infix_of_copied {stretches : List Text}
    (copied : ∀ stretch ∈ stretches, stretch <:+: text ∨ stretch.isBraceFree)
    (stands : kind.opener <:+: stretches.flatten) :
    kind.opener <:+: text ∨ kind.opener.ArisesIn stretches := by
  rcases Text.infix_or_arisesIn stands with ⟨stretch, member, opens⟩ | arises
  · rcases copied stretch member with within | noBrace
    · exact Or.inl (opens.trans within)
    · exact absurd opens (Text.not_infix_of_isBraceFree kind.brace_mem_opener noBrace)
  · exact Or.inr arises

/-- An opener that filling leaves was there before, or filling has put it together. -/
theorem opener_infix_of_interpolate (free : root.BraceFree)
    (stands : kind.opener <:+: interpolate root text) :
    kind.opener <:+: text ∨ kind.opener.ArisesIn (filledStretches root text) := by
  rw [← flatten_filledStretches] at stands
  refine opener_infix_of_copied (fun stretch member => ?_) stands
  exact free.cases_of_mem_filledStretches member

/-- An opener that a pass over blocks of any kind leaves was there before, or the pass has put it
together. -/
theorem opener_infix_of_expand {other : BlockKind} (free : root.BraceFree)
    (stands : kind.opener <:+: expand other root text) :
    kind.opener <:+: text ∨ kind.opener.ArisesIn (expandedStretches other root text) := by
  rw [← flatten_expandedStretches] at stands
  refine opener_infix_of_copied (fun stretch member => ?_) stands
  rcases mem_expandedStretches member with kept | ⟨block, listed, expanded⟩
  · exact Or.inl kept
  · rcases Block.cases_of_mem_expansionStretches free expanded with copied | noBrace
    · exact Or.inl (copied.trans (Block.body_infix_of_mem_scan listed))
    · exact Or.inr noBrace

/-- The pass over its own blocks leaves an opener that nothing closes, one in the body of a
block, or one that the pass has put together. -/
theorem cases_of_opener_infix_expand (free : root.BraceFree)
    (stands : kind.opener <:+: expand kind root text) :
    (Block.scan kind text).unclosed ≠ none ∨
      (∃ block ∈ (Block.scan kind text).blocks, kind.opener <:+: block.body) ∨
      kind.opener.ArisesIn (expandedStretches kind root text) := by
  by_cases closed : (Block.scan kind text).unclosed = none
  · right
    rw [← flatten_expandedStretches] at stands
    rcases Text.infix_or_arisesIn stands with ⟨stretch, member, opens⟩ | arises
    · obtain ⟨block, listed, expanded⟩ := mem_expandedStretchesFrom_of_opener closed member opens
      rcases Block.cases_of_mem_expansionStretches free expanded with copied | noBrace
      · exact Or.inl ⟨block, listed, opens.trans copied⟩
      · exact absurd opens (Text.not_infix_of_isBraceFree kind.brace_mem_opener noBrace)
    · exact Or.inr arises
  · exact Or.inl closed

end

/-! ### What is reported of openers -/

/-- The text in which the blocks of a kind are expanded. -/
def blockText (kind : BlockKind) (root : Value) (template : Text) : Text :=
  match kind with
  | .each => template
  | .loop => afterEach root template

theorem reportsOpener_of_unclosed {kind : BlockKind} {template : Text}
    (left : (Block.scan kind template).unclosed ≠ none) (root : Value) :
    Warning.ReportsOpener kind (render root template).warnings := by
  obtain ⟨unclosed, found⟩ := Option.ne_none_iff_exists'.1 left
  have sameKind := ((Block.exactFrom_scan kind template).unclosed_first unclosed found).1
  refine Or.inl ⟨unclosed.offset, mem_warnings_render.2 (mem_pageWarnings.2 (Or.inl ⟨kind, ?_⟩))⟩
  exact mem_unclosedWarnings.2 ⟨unclosed, found, by rw [sameKind]⟩

theorem reportsOpener_of_nested {kind : BlockKind} {root : Value} {template : Text} {block : Block}
    (listed : block ∈ (Block.scan kind (blockText kind root template)).blocks)
    (nested : kind.opener <:+: block.body) :
    Warning.ReportsOpener kind (render root template).warnings := by
  have sameKind := Block.kind_of_mem_scan listed
  have ofBlock : .nestedBlock kind block.path ∈ block.warnings root := by
    refine List.mem_append_left _ ?_
    rw [Block.nestingWarnings, sameKind, if_pos (Text.occursIn_iff.2 nested)]
    exact List.mem_singleton_self _
  have ofPass : .nestedBlock kind block.path ∈
      blockWarnings kind root (blockText kind root template) :=
    List.mem_flatMap.2 ⟨block, listed, ofBlock⟩
  refine Or.inr ⟨block.path, mem_warnings_render.2 (mem_pageWarnings.2 (Or.inr ?_))⟩
  cases kind with
  | each => exact Or.inl ofPass
  | loop => exact Or.inr (Or.inl ofPass)

/-! ### The openers in a page -/

/-- Every `for` block of the template is closed, but the text that the first pass writes holds an
opener that nothing closes. -/
def LosesCloser (root : Value) (template : Text) : Prop :=
  (Block.scan .loop template).unclosed = none ∧
    (Block.scan .loop (afterEach root template)).unclosed ≠ none

/-- What is put together by the pass over the blocks of a kind, and by each pass behind it. -/
def stretchesOfPasses (kind : BlockKind) (root : Value) (template : Text) : List (List Text) :=
  let ofLoops := expandedStretches .loop root (afterEach root template)
  let ofFilling := filledStretches root (afterBlocks root template)
  match kind with
  | .each => [expandedStretches .each root template, ofLoops, ofFilling]
  | .loop => [ofLoops, ofFilling]

/-- An opener in a page that no pass has put together stood there when the blocks of its kind
were expanded. -/
theorem opener_infix_expand_of_page {kind : BlockKind} {root : Value} {template : Text}
    (free : root.BraceFree) (stands : kind.opener <:+: page root template) :
    kind.opener <:+: expand kind root (blockText kind root template) ∨
      ∃ stretches ∈ stretchesOfPasses kind root template, kind.opener.ArisesIn stretches := by
  rcases opener_infix_of_interpolate free stands with before | arises
  · cases kind with
    | loop => exact Or.inl before
    | each =>
      rcases opener_infix_of_expand free before with first | arises
      · exact Or.inl first
      · exact Or.inr ⟨_, List.mem_cons_of_mem _ List.mem_cons_self, arises⟩
  · refine Or.inr ⟨_, ?_, arises⟩
    cases kind <;> simp [stretchesOfPasses]

end Render

/-- An opener that stands in the page is reported, unless it is that of a `for` block whose
closer the first pass takes away, or a pass has put it together from stretches that do not
hold it. -/
theorem opener_in_page_reported {kind : BlockKind} {root : Value} {template : Text}
    (free : root.BraceFree) (stands : kind.opener <:+: (render root template).output) :
    Warning.ReportsOpener kind (render root template).warnings ∨
      (kind = .loop ∧ Render.LosesCloser root template) ∨
      ∃ stretches ∈ Render.stretchesOfPasses kind root template,
        kind.opener.ArisesIn stretches := by
  rcases Render.opener_infix_expand_of_page free stands with left | arises
  · rcases Render.cases_of_opener_infix_expand free left with
      unclosed | ⟨block, listed, nested⟩ | arises
    · by_cases written : (Block.scan kind template).unclosed = none
      · cases kind with
        | each => exact absurd written unclosed
        | loop => exact Or.inr (Or.inl ⟨rfl, written, unclosed⟩)
      · exact Or.inl (Render.reportsOpener_of_unclosed written root)
    · exact Or.inl (Render.reportsOpener_of_nested listed nested)
    · refine Or.inr (Or.inr ⟨_, ?_, arises⟩)
      cases kind <;> exact List.mem_cons_self
  · exact Or.inr (Or.inr arises)

/-- An opener in the body of an `each` block stays in the page with every copy. -/
theorem opener_in_page_reported_nested :
    let root : Value := .record [(['r'], .list [.text ['x']])]
    let template := Block.written .each ['r'] (BlockKind.opener .each ++ ['s'] ++ closeBraces)
    root.BraceFree ∧ BlockKind.opener .each <:+: (render root template).output ∧
      Warning.ReportsOpener .each (render root template).warnings := by
  intro root template
  have free : root.BraceFree := by
    refine .record fun field member => ?_
    obtain rfl := List.mem_singleton.1 member
    refine .list fun item member => ?_
    obtain rfl := List.mem_singleton.1 member
    exact .text rfl
  have stands : BlockKind.opener .each <:+: (render root template).output := by decide +kernel
  refine ⟨free, stands, ?_⟩
  rcases opener_in_page_reported free stands with reported | ⟨same, -⟩ | arises
  · exact reported
  · contradiction
  · exact absurd arises (by decide +kernel)

/-- An `each` block without a list takes the closer of a `for` block with it, and a text completes
an opener. Both openers stand in a page, and neither is reported. -/
theorem opener_in_page_unreported :
    let crossing := BlockKind.opener .loop ++ "1...2".toList ++ closeBraces ++
      Block.written .each ['x'] (BlockKind.closer .loop)
    let root : Value := .record [(['x'], .text [' ', 'y'])]
    let joining := openBraces ++ "#for".toList ++ Placeholder.written ['x']
    (Value.record []).BraceFree ∧
      BlockKind.opener .loop <:+: (render (.record []) crossing).output ∧
      ¬ Warning.ReportsOpener .loop (render (.record []) crossing).warnings ∧
      root.BraceFree ∧ BlockKind.opener .loop <:+: (render root joining).output ∧
      ¬ Warning.ReportsOpener .loop (render root joining).warnings := by
  intro crossing root joining
  have free : (Value.record []).BraceFree := .record fun field member => nomatch member
  have rootFree : root.BraceFree := by
    refine .record fun field member => ?_
    obtain rfl := List.mem_singleton.1 member
    exact .text rfl
  have reports : (render (.record []) crossing).warnings = [.notAList .each ['x'] .missing] := by
    decide +kernel
  have noReports : (render root joining).warnings = [] := by decide +kernel
  refine ⟨free, by decide +kernel, ?_, rootFree, by decide +kernel, ?_⟩
  · rw [reports]
    rintro (⟨offset, member⟩ | ⟨path, member⟩)
    · exact absurd (List.mem_singleton.1 member) (by simp)
    · exact absurd (List.mem_singleton.1 member) (by simp)
  · rw [noReports]
    rintro (⟨offset, member⟩ | ⟨path, member⟩)
    · exact absurd member List.not_mem_nil
    · exact absurd member List.not_mem_nil

end Stencil
