/-
This file unfolds the passes along the text that they read. A pass is a scan followed by
a splice over the offsets that the scan found; the laws here speak of the text alone.
Filling placeholders reads one at the front of the text or copies one character, and
expanding blocks copies the text up to the first complete block, puts the expansion in
its place and goes on behind it. Since nothing that was read is read again, the offset
at which a pass begins does not matter.
-/

import Stencil.Proofs.Marker.BlockScan
import Stencil.Proofs.Marker.PlaceholderScan
import Stencil.Proofs.Text.Skipping
import Stencil.Render.Page

namespace Stencil

namespace Text

theorem takeBytes_size_append_add (before after : Text) (count : Nat) :
    takeBytes (before ++ after) (before.size + count) = before ++ takeBytes after count := by
  induction before with
  | nil => simp
  | cons character rest inductionHypothesis =>
    have positive := character.utf8Size_pos
    have nonzero : character.utf8Size + size rest + count ≠ 0 := by omega
    rw [List.cons_append, size_cons, takeBytes, if_neg nonzero, Nat.add_assoc,
      Nat.add_sub_cancel_left, inductionHypothesis, List.cons_append]

theorem dropBytes_size_append_add (before after : Text) (count : Nat) :
    dropBytes (before ++ after) (before.size + count) = dropBytes after count := by
  induction before with
  | nil => simp
  | cons character rest inductionHypothesis =>
    have positive := character.utf8Size_pos
    have nonzero : character.utf8Size + size rest + count ≠ 0 := by omega
    rw [List.cons_append, size_cons, dropBytes, if_neg nonzero, Nat.add_assoc,
      Nat.add_sub_cancel_left, inductionHypothesis]

end Text

/-- A text before all edits is copied. -/
theorem Edit.spliceFrom_append {offset : Nat} (before after : Text) {edits : List Edit}
    (behind : ∀ edit ∈ edits, offset + before.size ≤ edit.span.start ∧
      edit.span.start ≤ edit.span.stop) :
    spliceFrom offset (before ++ after) edits =
      before ++ spliceFrom (offset + before.size) after edits := by
  cases edits with
  | nil => rfl
  | cons edit later =>
    obtain ⟨start, stop⟩ := behind edit List.mem_cons_self
    have front : edit.span.start - offset =
        before.size + (edit.span.start - (offset + before.size)) := by omega
    have back : edit.span.stop - offset =
        before.size + (edit.span.stop - (offset + before.size)) := by omega
    rw [spliceFrom, spliceFrom, front, back, Text.takeBytes_size_append_add,
      Text.dropBytes_size_append_add]
    simp only [List.append_assoc]

/-! ### Filling placeholders -/

/-- What a scan finds lies behind the offset at which it began. -/
theorem Placeholder.le_start_of_mem_scanFrom {offset : Nat} {text : Text}
    {placeholder : Placeholder} (member : placeholder ∈ scanFrom offset text) :
    offset ≤ placeholder.span.start ∧ placeholder.span.start ≤ placeholder.span.stop := by
  fun_induction scanFrom offset text with
  | case1 => simp at member
  | case2 offset character rest content after read stop inductionHypothesis =>
    rcases List.mem_cons.1 member with rfl | later
    · exact ⟨Nat.le_refl _, Nat.le_add_right _ _⟩
    · have bound := inductionHypothesis later
      omega
  | case3 offset character rest unread inductionHypothesis =>
    have bound := inductionHypothesis member
    omega

namespace Render

/-- The text with its placeholders filled, where the text begins at an offset. -/
def interpolateFrom (root : Value) (offset : Nat) (text : Text) : Text :=
  Edit.spliceFrom offset text
    ((Placeholder.scanFrom offset text).filterMap (Placeholder.edit? root))

/-- Edits made from a scan lie behind the offset at which it began. -/
theorem le_start_of_mem_edits {root : Value} {offset : Nat} {text : Text} {edit : Edit}
    (member : edit ∈ (Placeholder.scanFrom offset text).filterMap (Placeholder.edit? root)) :
    offset ≤ edit.span.start ∧ edit.span.start ≤ edit.span.stop := by
  obtain ⟨placeholder, found, edited⟩ := List.mem_filterMap.1 member
  obtain ⟨content, -, rfl⟩ := Option.map_eq_some_iff.1 edited
  exact Placeholder.le_start_of_mem_scanFrom found

theorem interpolateFrom_of_read? (root : Value) (offset : Nat) {text content rest : Text}
    (read : Placeholder.read? text = some (content, rest)) :
    interpolateFrom root offset text =
      (root.lookupText content.trim).getD (Placeholder.written content) ++
        interpolateFrom root (offset + (Placeholder.written content).size) rest := by
  rw [interpolateFrom, Placeholder.scanFrom_of_read? read, List.filterMap_cons,
    Placeholder.eq_append_of_read? read]
  cases found : root.lookupText content.trim with
  | none =>
    simp only [Placeholder.edit?, found, Option.map_none, Option.getD_none]
    exact Edit.spliceFrom_append _ rest fun edit member => le_start_of_mem_edits member
  | some new =>
    simp only [Placeholder.edit?, found, Option.map_some, Option.getD_some]
    show Edit.spliceFrom offset ([] ++ Placeholder.written content ++ rest) _ = [] ++ new ++ _
    exact Edit.spliceFrom_cons rfl rfl

theorem interpolateFrom_of_not_read (root : Value) (offset : Nat) {character : Char} {rest : Text}
    (unread : Placeholder.read? (character :: rest) = none) :
    interpolateFrom root offset (character :: rest) =
      character :: interpolateFrom root (offset + character.utf8Size) rest := by
  rw [interpolateFrom, Placeholder.scanFrom_of_not_read unread]
  exact Edit.spliceFrom_append [character] rest fun edit member => le_start_of_mem_edits member

@[simp] theorem interpolateFrom_nil (root : Value) (offset : Nat) :
    interpolateFrom root offset [] = [] := by
  rw [interpolateFrom, Placeholder.scanFrom_nil]
  rfl

/-- Filling does not depend on the offset at which the text begins. -/
theorem interpolateFrom_congr (root : Value) (first second : Nat) (text : Text) :
    interpolateFrom root first text = interpolateFrom root second text := by
  fun_induction Placeholder.scanFrom first text generalizing second with
  | case1 => rw [interpolateFrom_nil, interpolateFrom_nil]
  | case2 first character rest content after read stop inductionHypothesis =>
    rw [interpolateFrom_of_read? root first read, interpolateFrom_of_read? root second read]
    exact congrArg _ (inductionHypothesis _)
  | case3 first character rest unread inductionHypothesis =>
    rw [interpolateFrom_of_not_read root first unread,
      interpolateFrom_of_not_read root second unread]
    exact congrArg _ (inductionHypothesis _)

@[simp] theorem interpolate_nil (root : Value) : interpolate root [] = [] :=
  interpolateFrom_nil root 0

/-- A placeholder at the front gives way to the text that its path leads to, or stays. -/
theorem interpolate_of_read? (root : Value) {text content rest : Text}
    (read : Placeholder.read? text = some (content, rest)) :
    interpolate root text =
      (root.lookupText content.trim).getD (Placeholder.written content) ++
        interpolate root rest := by
  refine (interpolateFrom_of_read? root 0 read).trans (congrArg _ ?_)
  exact interpolateFrom_congr root _ 0 rest

/-- A character at which no placeholder is read is copied. -/
theorem interpolate_of_not_read (root : Value) {character : Char} {rest : Text}
    (unread : Placeholder.read? (character :: rest) = none) :
    interpolate root (character :: rest) = character :: interpolate root rest := by
  refine (interpolateFrom_of_not_read root 0 unread).trans (congrArg _ ?_)
  exact interpolateFrom_congr root _ 0 rest

/-- A text in which no opening braces begin is copied. -/
theorem interpolate_append (root : Value) {before after : Text}
    (skips : Text.Skips openBraces before after) :
    interpolate root (before ++ after) = before ++ interpolate root after := by
  induction before with
  | nil => rfl
  | cons character rest inductionHypothesis =>
    obtain ⟨absent, restSkips⟩ := skips
    rw [List.cons_append, interpolate_of_not_read root (Placeholder.read?_eq_none absent),
      inductionHypothesis restSkips, List.cons_append]

end Render

/-! ### Expanding blocks -/

namespace Render

/-- The text with its blocks of one kind expanded, where the text begins at an offset. -/
def expandFrom (kind : BlockKind) (root : Value) (offset : Nat) (text : Text) : Text :=
  Edit.spliceFrom offset text
    ((Block.scanFrom kind offset text).blocks.map fun block => ⟨block.span, block.expansion root⟩)

theorem expandFrom_of_no_opener {kind : BlockKind} (root : Value) (offset : Nat) {text : Text}
    (absent : Text.cut? kind.opener text = none) : expandFrom kind root offset text = text := by
  rw [expandFrom, Block.scanFrom_of_no_opener absent]
  rfl

theorem expandFrom_of_unclosed {kind : BlockKind} (root : Value) (offset : Nat)
    {text before inside : Text} (opened : Text.cut? kind.opener text = some (before, inside))
    (unclosed : Block.contents? kind inside = none) : expandFrom kind root offset text = text := by
  rw [expandFrom, Block.scanFrom_of_unclosed opened unclosed]
  rfl

theorem expandFrom_of_closed {kind : BlockKind} (root : Value) (offset : Nat)
    {text before inside target body rest : Text}
    (opened : Text.cut? kind.opener text = some (before, inside))
    (closed : Block.contents? kind inside = some (target, body, rest)) (span : Span) :
    expandFrom kind root offset text =
      before ++ Block.expansion root ⟨kind, target, body, span⟩ ++
        expandFrom kind root (offset + before.size + (Block.written kind target body).size)
          rest := by
  rw [expandFrom, Block.scanFrom_of_closed opened closed, List.map_cons,
    Block.eq_append_of_closed opened closed]
  exact Edit.spliceFrom_cons rfl rfl

/-- Expanding does not depend on the offset at which the text begins. -/
theorem expandFrom_congr (kind : BlockKind) (root : Value) (first second : Nat) (text : Text) :
    expandFrom kind root first text = expandFrom kind root second text := by
  fun_induction Block.scanFrom kind first text generalizing second with
  | case1 first text absent =>
    rw [expandFrom_of_no_opener root first absent, expandFrom_of_no_opener root second absent]
  | case2 first text before inside opened start unclosed =>
    rw [expandFrom_of_unclosed root first opened unclosed,
      expandFrom_of_unclosed root second opened unclosed]
  | case3 first text before inside opened start target body rest closed stop later
      inductionHypothesis =>
    rw [expandFrom_of_closed root first opened closed ⟨0, 0⟩,
      expandFrom_of_closed root second opened closed ⟨0, 0⟩]
    exact congrArg _ (inductionHypothesis _)

theorem expand_of_no_opener {kind : BlockKind} (root : Value) {text : Text}
    (absent : Text.cut? kind.opener text = none) : expand kind root text = text :=
  expandFrom_of_no_opener root 0 absent

theorem expand_of_unclosed {kind : BlockKind} (root : Value) {text before inside : Text}
    (opened : Text.cut? kind.opener text = some (before, inside))
    (unclosed : Block.contents? kind inside = none) : expand kind root text = text :=
  expandFrom_of_unclosed root 0 opened unclosed

/-- The first complete block gives way to its expansion, and the text behind it is expanded. -/
theorem expand_of_closed {kind : BlockKind} (root : Value)
    {text before inside target body rest : Text}
    (opened : Text.cut? kind.opener text = some (before, inside))
    (closed : Block.contents? kind inside = some (target, body, rest)) (span : Span) :
    expand kind root text =
      before ++ Block.expansion root ⟨kind, target, body, span⟩ ++ expand kind root rest := by
  refine (expandFrom_of_closed root 0 opened closed span).trans (congrArg _ ?_)
  exact expandFrom_congr kind root _ 0 rest

/-- A text in which no opener of the kind begins is copied. -/
theorem expand_append {kind : BlockKind} (root : Value) {before after : Text}
    (skips : Text.Skips kind.opener before after) :
    expand kind root (before ++ after) = before ++ expand kind root after := by
  have passed := Text.cut?_append_of_skips skips
  cases opened : Text.cut? kind.opener after with
  | none =>
    rw [opened] at passed
    rw [expand_of_no_opener root passed, expand_of_no_opener root opened]
  | some parts =>
    obtain ⟨front, inside⟩ := parts
    rw [opened] at passed
    cases closed : Block.contents? kind inside with
    | none => rw [expand_of_unclosed root passed closed, expand_of_unclosed root opened closed]
    | some contents =>
      obtain ⟨target, body, rest⟩ := contents
      rw [expand_of_closed root passed closed ⟨0, 0⟩, expand_of_closed root opened closed ⟨0, 0⟩]
      simp only [List.append_assoc]

/-- A block at the front, written with a target that holds no closing braces and a body that
holds no closer, gives way to its expansion. -/
theorem expand_written_append {kind : BlockKind} (root : Value) {target body rest : Text}
    (targetSkips : Text.Skips closeBraces target (closeBraces ++ (body ++ (kind.closer ++ rest))))
    (bodySkips : Text.Skips kind.closer body (kind.closer ++ rest)) (span : Span) :
    expand kind root (Block.written kind target body ++ rest) =
      Block.expansion root ⟨kind, target, body, span⟩ ++ expand kind root rest := by
  have whole : Block.written kind target body ++ rest =
      kind.opener ++ (target ++ (closeBraces ++ (body ++ (kind.closer ++ rest)))) := by
    simp [Block.written]
  have opened := Text.cut?_append kind.opener_ne_nil
    (target ++ (closeBraces ++ (body ++ (kind.closer ++ rest))))
  have targetFound := Text.cut?_of_skips (by decide) targetSkips
  have bodyFound := Text.cut?_of_skips kind.closer_ne_nil bodySkips
  rw [whole, expand_of_closed root opened
    (Block.contents?_eq_some_iff.2 ⟨_, targetFound, bodyFound⟩) span, List.nil_append]

end Render

end Stencil
