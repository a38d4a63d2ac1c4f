/-
This file makes the edits of a text in the text itself, from the last one to the first.
Splicing keeps a place in the text that it reads and never changes it, while here every
edit finds a text whose end has already another length. The two agree because the text
up to an edit is still as it was when its turn comes: the later edits begin behind it. So
a slice fails for the one exactly when it fails for the other, and what every pass returns
is what its scan gives when its markers are replaced from the end.
-/

import Stencil.Proofs.Render.Slicing

namespace Stencil

namespace Edit

/-- The text with one edit made, put together from slices; none when a slice fails. -/
def applyIn? (edit : Edit) (text : Text) : Option Text :=
  (text.slice? 0 edit.span.start).bind fun before =>
    (text.sliceFrom? edit.span.stop).map fun after => before ++ edit.new ++ after

/-- The text with the edits made one at a time, from the last to the first; none when a slice
fails. -/
def applyFromEnd? (text : Text) (edits : List Edit) : Option Text :=
  edits.foldr (fun edit made => made.bind edit.applyIn?) (some text)

/-- The spans lie in the bytes of a text, increase, and do not overlap. Their ends may lie inside
characters. -/
structure InOrder (text : Text) (edits : List Edit) : Prop where
  in_bounds : ∀ edit ∈ edits, edit.span.start ≤ edit.span.stop ∧ edit.span.stop ≤ text.size
  increasing : edits.Pairwise fun first second => first.span.stop ≤ second.span.start

@[simp] theorem applyFromEnd?_nil (text : Text) : applyFromEnd? text [] = some text := rfl

theorem applyFromEnd?_cons (text : Text) (edit : Edit) (later : List Edit) :
    applyFromEnd? text (edit :: later) = (applyFromEnd? text later).bind edit.applyIn? := rfl

/-! ### One edit -/

theorem applyIn?_eq_some_iff {edit : Edit} {text made : Text} :
    edit.applyIn? text = some made ↔ ∃ before rest through after,
      text = before ++ rest ∧ before.size = edit.span.start ∧
      text = through ++ after ∧ through.size = edit.span.stop ∧
      made = before ++ edit.new ++ after := by
  rw [applyIn?, Option.bind_eq_some_iff]
  simp only [Option.map_eq_some_iff, Text.slice?_eq_some_iff, Text.sliceFrom?_eq_some_iff,
    Text.size_eq_zero_iff, Nat.zero_add]
  constructor
  · rintro ⟨before, ⟨_, rest, whole, rfl, starts⟩, after, ⟨through, divided, stops⟩, rfl⟩
    exact ⟨before, rest, through, after, whole, starts, divided, stops, rfl⟩
  · rintro ⟨before, rest, through, after, whole, starts, divided, stops, rfl⟩
    exact ⟨before, ⟨[], rest, whole, rfl, starts⟩, after, ⟨through, divided, stops⟩, rfl⟩

/-- An edit whose slices do not fail is made. -/
theorem apply_eq_of_applyIn? {edit : Edit} {text made : Text}
    (applied : edit.applyIn? text = some made) : edit.apply text = made := by
  obtain ⟨before, rest, through, after, whole, starts, divided, stops, rfl⟩ :=
    applyIn?_eq_some_iff.1 applied
  have front : text.takeBytes before.size = before := by
    rw [whole, Text.takeBytes_size_append]
  have back : text.dropBytes through.size = after := by
    rw [divided, Text.dropBytes_size_append]
  rw [apply, ← starts, ← stops, front, back]

theorem applyFromEnd_eq_of_applyFromEnd? {text made : Text} {edits : List Edit}
    (applied : applyFromEnd? text edits = some made) : applyFromEnd text edits = made := by
  induction edits generalizing made with
  | nil => exact Option.some.inj applied
  | cons edit later inductionHypothesis =>
    obtain ⟨between, laterMade, lastMade⟩ := Option.bind_eq_some_iff.1 applied
    show edit.apply (applyFromEnd text later) = made
    rw [inductionHypothesis laterMade]
    exact apply_eq_of_applyIn? lastMade

/-! ### What an edit finds when its turn comes -/

/-- Edits behind an offset leave the text in front of it, so they make no boundary there. -/
theorem isBoundary_of_applyFromEnd? {text made : Text} {edits : List Edit} {offset : Nat}
    (applied : applyFromEnd? text edits = some made)
    (behind : ∀ edit ∈ edits, offset ≤ edit.span.start) (boundary : made.IsBoundary offset) :
    text.IsBoundary offset := by
  induction edits generalizing made with
  | nil =>
    obtain rfl : text = made := Option.some.inj applied
    exact boundary
  | cons edit later inductionHypothesis =>
    obtain ⟨between, laterMade, lastMade⟩ := Option.bind_eq_some_iff.1 applied
    obtain ⟨before, rest, -, after, rfl, starts, -, -, rfl⟩ := applyIn?_eq_some_iff.1 lastMade
    have start := behind edit List.mem_cons_self
    refine inductionHypothesis laterMade
      (fun other member => behind other (List.mem_cons_of_mem _ member)) ?_
    -- The offset lies in front of the edit, where the text is as it was.
    obtain ⟨front, back, whole, rfl⟩ := boundary
    rw [List.append_assoc] at whole
    obtain ⟨middle, rfl, -⟩ := Text.exists_eq_append_of_size_le whole.symm (by omega)
    exact ⟨front, middle ++ rest, List.append_assoc _ _ _, rfl⟩

/-- Edits that fit a text are made in it where splicing makes them: what lies in front of all of
them is kept. -/
theorem applyFromEnd?_eq_some (front : Text) {remaining : Text} {edits : List Edit}
    (fits : FitFrom (front ++ remaining) front.size edits) :
    applyFromEnd? (front ++ remaining) edits =
      some (front ++ spliceFrom front.size remaining edits) := by
  induction edits generalizing front remaining with
  | nil => rfl
  | cons edit later inductionHypothesis =>
    obtain ⟨kept, replaced, after, rfl, starts, stops, laterFits⟩ := exists_pieces_of_fitFrom fits
    have through : (front ++ kept ++ replaced).size = edit.span.stop := by
      rw [Text.size_append, Text.size_append, stops]
    have divided : front ++ kept ++ replaced ++ after = front ++ (kept ++ replaced ++ after) := by
      simp
    rw [← through] at laterFits
    have recursive := inductionHypothesis _ laterFits
    rw [through, divided] at recursive
    rw [applyFromEnd?_cons, recursive, Option.bind_some, spliceFrom_cons starts stops]
    refine applyIn?_eq_some_iff.2 ⟨front ++ kept, replaced ++ spliceFrom edit.span.stop after later,
      front ++ kept ++ replaced, spliceFrom edit.span.stop after later, ?_, ?_, rfl, through, ?_⟩
    · rw [List.append_assoc]
    · rw [Text.size_append, starts]
    · simp only [List.append_assoc]

/-! ### When a slice fails -/

theorem isBoundary_of_spliceFrom? {text made : Text} {edits : List Edit} {offset : Nat}
    (spliced : spliceFrom? text offset edits = some made) : text.IsBoundary offset := by
  cases edits with
  | nil =>
    obtain ⟨before, whole, size⟩ := Text.sliceFrom?_eq_some_iff.1 spliced
    exact ⟨before, made, whole, size⟩
  | cons edit later =>
    obtain ⟨kept, sliced, -⟩ := Option.bind_eq_some_iff.1 spliced
    obtain ⟨before, after, whole, size, -⟩ := Text.slice?_eq_some_iff.1 sliced
    exact ⟨before, kept ++ after, whole, size⟩

/-- Edits that do not end before they start fit a text in which splicing makes them. -/
theorem fitFrom_of_spliceFrom? {text made : Text} {edits : List Edit} {offset : Nat}
    (forward : ∀ edit ∈ edits, edit.span.start ≤ edit.span.stop)
    (spliced : spliceFrom? text offset edits = some made) : FitFrom text offset edits := by
  induction edits generalizing offset made with
  | nil => trivial
  | cons edit later inductionHypothesis =>
    obtain ⟨kept, sliced, rest⟩ := Option.bind_eq_some_iff.1 spliced
    obtain ⟨behindMade, laterSpliced, -⟩ := Option.map_eq_some_iff.1 rest
    obtain ⟨before, after, whole, size, start⟩ := Text.slice?_eq_some_iff.1 sliced
    refine ⟨by omega, forward edit List.mem_cons_self, ?_,
      isBoundary_of_spliceFrom? laterSpliced, inductionHypothesis ?_ laterSpliced⟩
    · refine ⟨before ++ kept, after, ?_, ?_⟩
      · rw [whole, List.append_assoc]
      · rw [Text.size_append, size, start]
    · exact fun other member => forward other (List.mem_cons_of_mem _ member)

/-- Edits in order fit a text in which they can be made from the last to the first. -/
theorem fitFrom_of_applyFromEnd? {text made : Text} {edits : List Edit} {offset : Nat}
    (inOrder : InOrder text edits) (behind : ∀ edit ∈ edits, offset ≤ edit.span.start)
    (applied : applyFromEnd? text edits = some made) : FitFrom text offset edits := by
  induction edits generalizing offset made with
  | nil => trivial
  | cons edit later inductionHypothesis =>
    obtain ⟨inBounds, increasing⟩ := inOrder
    obtain ⟨above, laterIncreasing⟩ := List.pairwise_cons.1 increasing
    have forward := (inBounds edit List.mem_cons_self).1
    obtain ⟨between, laterMade, lastMade⟩ := Option.bind_eq_some_iff.1 applied
    obtain ⟨before, rest, through, after, whole, starts, divided, stops, -⟩ :=
      applyIn?_eq_some_iff.1 lastMade
    refine ⟨behind edit List.mem_cons_self, forward, ?_, ?_, ?_⟩
    · refine isBoundary_of_applyFromEnd? laterMade ?_ ⟨before, rest, whole, starts⟩
      exact fun other member => Nat.le_trans forward (above other member)
    · exact isBoundary_of_applyFromEnd? laterMade above ⟨through, after, divided, stops⟩
    · refine inductionHypothesis ⟨fun other member => ?_, laterIncreasing⟩ above laterMade
      exact inBounds other (List.mem_cons_of_mem _ member)

/-- On edits in order a slice fails for both ways or for neither, and both make the same text. -/
theorem spliceFrom?_eq_applyFromEnd? {text : Text} {edits : List Edit}
    (inOrder : InOrder text edits) : spliceFrom? text 0 edits = applyFromEnd? text edits := by
  by_cases fits : FitFrom text 0 edits
  · exact (spliceFrom?_eq_some [] fits).trans (applyFromEnd?_eq_some [] fits).symm
  · have noSplice : spliceFrom? text 0 edits = none := by
      refine Option.eq_none_iff_forall_ne_some.2 fun made spliced => fits ?_
      exact fitFrom_of_spliceFrom? (fun edit member => (inOrder.in_bounds edit member).1) spliced
    have noApply : applyFromEnd? text edits = none := by
      refine Option.eq_none_iff_forall_ne_some.2 fun made applied => fits ?_
      exact fitFrom_of_applyFromEnd? inOrder (fun _ _ => Nat.zero_le _) applied
    rw [noSplice, noApply]

end Edit

/-- Splicing makes edits in order as they are made in the text itself from the last to the first,
and fails when that fails. The edits of a pass, which come from one scan of its text, are made
from the end without failing and give what the pass returns. -/
theorem splice_eq_applyFromEnd (text : Text) :
    (∀ edits, Edit.InOrder text edits →
      Edit.spliceFrom? text 0 edits = Edit.applyFromEnd? text edits) ∧
    (∀ edits, Edit.Fit text edits →
      Edit.applyFromEnd? text edits = some (Edit.splice text edits) ∧
        Edit.applyFromEnd text edits = Edit.splice text edits) ∧
    ∀ scope : Scope,
      (∀ kind, Edit.applyFromEnd? text ((Block.scan kind text).blocks.map fun block =>
          ⟨block.span, block.expansion scope.root⟩) = some (scope.expand kind text).1) ∧
      Edit.applyFromEnd? text ((Placeholder.scan text).filterMap
          (Placeholder.edit? scope.root)) = some (scope.interpolate text).1 := by
  have made : ∀ edits, Edit.Fit text edits →
      Edit.applyFromEnd? text edits = some (Edit.splice text edits) :=
    fun edits fits => Edit.applyFromEnd?_eq_some [] fits
  refine ⟨fun edits inOrder => Edit.spliceFrom?_eq_applyFromEnd? inOrder, fun edits fits => ?_,
    fun scope => ⟨fun kind => ?_, ?_⟩⟩
  · exact ⟨made edits fits, Edit.applyFromEnd_eq_of_applyFromEnd? (made edits fits)⟩
  · exact made _ (Render.fit_expand kind scope.root text)
  · exact made _ (Render.fit_interpolate scope.root text)

/-- Two edits around a character of two bytes are made. One that begins inside it fails both
ways. -/
theorem splice_eq_applyFromEnd_around :
    let text : Text := ['a', 'é', 'b']
    let around : List Edit := [⟨⟨0, 1⟩, ['x', 'y']⟩, ⟨⟨3, 4⟩, []⟩]
    let inside : List Edit := [⟨⟨0, 1⟩, ['x', 'y']⟩, ⟨⟨2, 4⟩, []⟩]
    Edit.applyFromEnd? text around = some ['x', 'y', 'é'] ∧
      Edit.applyFromEnd text around = ['x', 'y', 'é'] ∧ Edit.applyFromEnd? text inside = none := by
  intro text around inside
  obtain ⟨ofInOrder, ofFit, -⟩ := splice_eq_applyFromEnd text
  have atStart : text.IsBoundary 0 := Text.splitAt?_isSome_iff.1 (by decide)
  have atFirst : text.IsBoundary 1 := Text.splitAt?_isSome_iff.1 (by decide)
  have atLast : text.IsBoundary 3 := Text.splitAt?_isSome_iff.1 (by decide)
  have atEnd : text.IsBoundary 4 := Text.splitAt?_isSome_iff.1 (by decide)
  have fits : Edit.Fit text around :=
    ⟨by decide, by decide, atStart, atFirst, by decide, by decide, atLast, atEnd, trivial⟩
  obtain ⟨made, same⟩ := ofFit around fits
  have spliced : Edit.splice text around = ['x', 'y', 'é'] := by decide
  refine ⟨by rw [made, spliced], by rw [same, spliced], ?_⟩
  rw [← ofInOrder inside ⟨by decide, by decide⟩]
  decide

end Stencil
