/-
This file says how a placeholder and a block of one text can meet. They are found by
separate scans, each of which reads the braces of the other as text. Opening braces and
closing braces never overlap, and an opener has no closing brace. So a placeholder that
begins within a block ends in it, with the closer at the latest, and one that begins in
front of a block either ends there or takes in the opening tag and no more: then it and
the target of the block end with the same closing braces.
-/

import Stencil.Proofs.Marker.Spans
import Stencil.Proofs.Render.LeftInPlace

namespace Stencil

/-- Two spans have no byte in common. -/
def Span.Apart (first second : Span) : Prop :=
  first.stop ≤ second.start ∨ second.stop ≤ first.start

/-- One span lies within another. -/
def Span.Within (inner outer : Span) : Prop :=
  outer.start ≤ inner.start ∧ inner.stop ≤ outer.stop

theorem Span.contains_iff {span : Span} {offset : Nat} :
    span.contains offset ↔ span.start ≤ offset ∧ offset < span.stop := by
  simp [Span.contains]

/-- A placeholder begins in front of a block and ends with its opening tag, which it takes for a
part of its path. -/
structure Placeholder.RunsOverTag (placeholder : Placeholder) (block : Block) : Prop where
  start_lt : placeholder.span.start < block.span.start
  stop_eq : placeholder.span.stop = block.bodyStart
  brace_mem_path : '{' ∈ placeholder.path

/-! ### Where the braces stand -/

namespace BlockKind

theorem exists_opener_eq (kind : BlockKind) : ∃ tail, kind.opener = '{' :: '{' :: '#' :: tail := by
  cases kind <;> exact ⟨_, rfl⟩

theorem closeBraces_suffix_closer (kind : BlockKind) : closeBraces <:+ kind.closer := by
  cases kind <;> decide

end BlockKind

namespace Block

variable {kind : BlockKind} {text : Text} {offset : Nat} {block : Block}

theorem ReadFrom.targetStart_eq (read : block.ReadFrom kind text offset) :
    block.targetStart = block.span.start + kind.opener.size := by
  rw [targetStart, read.kind_eq]

/-- The closing braces at the end of a block stand behind all opening braces that begin in it. -/
theorem ReadFrom.closes_behind (read : block.ReadFrom kind text offset) {opening : Nat}
    (opens : openBraces.StandsAt text opening) (within : opening < block.span.stop) :
    ∃ braces, opening + openBraces.size ≤ braces ∧ closeBraces.StandsAt text braces ∧
      braces + closeBraces.size = block.span.stop := by
  obtain ⟨front, same⟩ := kind.closeBraces_suffix_closer
  have closer := read.closer_first.2.1
  have stop := read.stop_eq
  rw [← same] at closer stop
  have stands :
      closeBraces.StandsAt text (block.bodyStart + block.body.size + Text.size front) := by
    refine Text.StandsAt.inner front closeBraces [] ?_
    rwa [List.append_nil]
  rw [Text.size_append, ← Nat.add_assoc] at stop
  refine ⟨_, ?_, stands, stop.symm⟩
  have absent : ∀ character ∈ openBraces, character ∉ closeBraces := by
    simp [openBraces, closeBraces]
  rcases opens.apart stands (by decide) (by decide) absent with before | behind
  · exact before
  · omega

/-- Closing braces that reach behind the start of a block stand behind its opener. -/
theorem ReadFrom.targetStart_le (read : block.ReadFrom kind text offset) {braces : Nat}
    (stands : closeBraces.StandsAt text braces)
    (reaches : block.span.start < braces + closeBraces.size) : block.targetStart ≤ braces := by
  have absent : ∀ character ∈ kind.opener, character ∉ closeBraces := by
    cases kind <;> simp [BlockKind.opener, closeBraces]
  rcases read.opener_first.2.1.apart stands kind.opener_ne_nil (by decide) absent with
    before | behind
  · rwa [read.targetStart_eq]
  · omega

end Block

/-! ### How they meet -/

namespace Placeholder

variable {kind : BlockKind} {text : Text} {offset : Nat} {block : Block}
  {placeholder : Placeholder}

/-- A placeholder is written around its content, which ends at the first closing braces. -/
theorem StandsIn.exists_content (stands : placeholder.StandsIn text) :
    ∃ content : Text, content.trim = placeholder.path ∧
      openBraces.StandsAt text placeholder.span.start ∧
      content.StandsAt text (placeholder.span.start + openBraces.size) ∧
      closeBraces.FirstFrom text (placeholder.span.start + openBraces.size)
        (placeholder.span.start + openBraces.size + content.size) ∧
      placeholder.span.stop =
        placeholder.span.start + openBraces.size + content.size + closeBraces.size := by
  obtain ⟨before, content, rest, rfl, first, trims, -, spanned⟩ := stands
  rw [spanned]
  have whole : before ++ written content ++ rest =
      before ++ openBraces ++ (content ++ closeBraces ++ rest) := by
    simp [written]
  have braces := Text.firstFrom_of_cut? (Text.cut?_eq_some_iff.2 first) whole
  rw [Text.size_append] at braces
  refine ⟨content, Text.trimsTo_iff.1 trims, ?_, ?_, braces, ?_⟩
  · rw [whole]
    exact Text.standsAt_size_append before openBraces _
  · exact ⟨before ++ openBraces, closeBraces ++ rest, by simp [written], Text.size_append _ _⟩
  · simp only [written, Text.size_append]
    omega

/-- A placeholder that begins in a block ends in it. -/
theorem StandsIn.within_of_start (stands : placeholder.StandsIn text)
    (read : block.ReadFrom kind text offset)
    (inside : block.span.contains placeholder.span.start) :
    placeholder.span.Within block.span := by
  obtain ⟨content, -, opens, -, first, stop⟩ := stands.exists_content
  obtain ⟨behind, within⟩ := Span.contains_iff.1 inside
  obtain ⟨closing, later, closes, last⟩ := read.closes_behind opens within
  have bound := first.2.2 closing later closes
  exact ⟨behind, by omega⟩

/-- A placeholder that begins in front of a block ends there or with the opening tag. -/
theorem StandsIn.le_start_or_runsOverTag (stands : placeholder.StandsIn text)
    (read : block.ReadFrom kind text offset) (before : placeholder.span.start < block.span.start) :
    placeholder.span.stop ≤ block.span.start ∨ placeholder.RunsOverTag block := by
  obtain ⟨content, trimmed, -, contentStands, first, stop⟩ := stands.exists_content
  rcases Nat.lt_or_ge block.span.start placeholder.span.stop with reaches | apart
  · right
    have braces : openBraces.size = 2 := by decide
    have tag : 2 < kind.opener.size := by cases kind <;> decide
    have opener := read.opener_first.2.1
    have target := read.targetStart_eq
    have behindOpener := read.targetStart_le first.2.1 (by omega)
    -- Each of the two ends with the first closing braces behind the opener.
    have same : placeholder.span.start + openBraces.size + content.size =
        block.targetStart + block.target.size := by
      refine Nat.le_antisymm ?_ (read.braces_first.2.2 _ behindOpener first.2.1)
      exact first.2.2 _ (by omega) read.braces_first.2.1
    -- The second brace of the opener stands behind both opening braces of the placeholder.
    obtain ⟨tail, opens⟩ := kind.exists_opener_eq
    have second : Text.StandsAt ['{'] text (block.span.start + 1) := by
      rw [opens] at opener
      exact Text.StandsAt.inner ['{'] ['{'] ('#' :: tail) opener
    refine ⟨before, ?_, ?_⟩
    · rw [stop, same, Block.bodyStart]
    · rw [← trimmed]
      refine Text.mem_trim_of_not_blank (by decide) ?_
      exact contentStands.mem_of_within second (by omega) (by omega)
  · exact Or.inl apart

end Placeholder

end Stencil
