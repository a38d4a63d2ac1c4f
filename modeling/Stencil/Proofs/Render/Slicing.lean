/-
This file renders over byte offsets. Splicing takes a slice of the text from where the
last edit has stopped to where the next one starts, so it fails where the spans of the
edits leave the boundaries or overlap. The spans of a scan do neither: every pass runs
without a failing slice, on every text and from every root, and the places that an
outline shows have a line and a column.
-/

import Stencil.Marker.Outline
import Stencil.Proofs.Marker.Slicing
import Stencil.Proofs.Marker.Spans
import Stencil.Render.Page
import Stencil.Text.Position

namespace Stencil

/-! ### Splicing -/

namespace Edit

/-- The text from an offset on with the edits made, put together from slices; none when a slice
fails. -/
def spliceFrom? (text : Text) (offset : Nat) : List Edit → Option Text
  | [] => text.sliceFrom? offset
  | edit :: later =>
    (text.slice? offset edit.span.start).bind fun kept =>
      (spliceFrom? text edit.span.stop later).map fun rest => kept ++ edit.new ++ rest

/-- Edits whose spans lie in the text one behind the other fit it. -/
theorem fitFrom_of_ascending {text : Text} {offset : Nat} {edits : List Edit}
    (ascending : Span.Ascending text (edits.map span))
    (behind : ∀ edit ∈ edits, offset ≤ edit.span.start) : FitFrom text offset edits := by
  induction edits generalizing offset with
  | nil => trivial
  | cons edit later inductionHypothesis =>
    obtain ⟨liesIn, ascends⟩ := ascending
    obtain ⟨above, laterAscends⟩ := List.pairwise_cons.1 ascends
    have editLiesIn := liesIn edit.span List.mem_cons_self
    refine ⟨behind edit List.mem_cons_self, Nat.le_of_lt editLiesIn.start_lt_stop,
      editLiesIn.start_isBoundary, editLiesIn.stop_isBoundary, ?_⟩
    refine inductionHypothesis ⟨?_, laterAscends⟩ ?_
    · exact fun span member => liesIn span (List.mem_cons_of_mem _ member)
    · exact fun other member => above other.span (List.mem_map_of_mem member)

theorem fit_of_ascending {text : Text} {edits : List Edit}
    (ascending : Span.Ascending text (edits.map span)) : Fit text edits :=
  fitFrom_of_ascending ascending fun _ _ => Nat.zero_le _

/-- The first of the edits that fit a text divides what remains into what it keeps, what it
replaces, and a rest that the later edits fit. -/
theorem exists_pieces_of_fitFrom {front remaining : Text} {edit : Edit} {later : List Edit}
    (fits : FitFrom (front ++ remaining) front.size (edit :: later)) :
    ∃ kept replaced after, remaining = kept ++ replaced ++ after ∧
      edit.span.start = front.size + kept.size ∧
      edit.span.stop = front.size + kept.size + replaced.size ∧
      FitFrom (front ++ kept ++ replaced ++ after) edit.span.stop later := by
  obtain ⟨behind, forward, ⟨before, rest, atStart, starts⟩, ⟨through, after, atStop, stops⟩,
    laterFits⟩ := fits
  rw [← starts] at behind forward
  obtain ⟨kept, rfl, rfl⟩ := Text.exists_eq_append_of_size_le atStart behind
  rw [← stops] at forward
  obtain ⟨replaced, rfl, rfl⟩ :=
    Text.exists_eq_append_of_size_le (atStart.symm.trans atStop) forward
  rw [atStop] at laterFits
  rw [Text.size_append] at starts stops
  rw [Text.size_append] at stops
  exact ⟨kept, replaced, after, (List.append_assoc _ _ _).symm, starts.symm, stops.symm, laterFits⟩

/-- No slice fails where the edits fit the text. -/
theorem spliceFrom?_eq_some (front : Text) {remaining : Text} {edits : List Edit}
    (fits : FitFrom (front ++ remaining) front.size edits) :
    spliceFrom? (front ++ remaining) front.size edits =
      some (spliceFrom front.size remaining edits) := by
  induction edits generalizing front remaining with
  | nil => exact Text.sliceFrom?_append front remaining
  | cons edit later inductionHypothesis =>
    obtain ⟨kept, replaced, after, rfl, starts, stops, laterFits⟩ := exists_pieces_of_fitFrom fits
    have through : (front ++ kept ++ replaced).size = edit.span.stop := by
      rw [Text.size_append, Text.size_append, stops]
    have divided : front ++ kept ++ replaced ++ after = front ++ (kept ++ (replaced ++ after)) := by
      simp
    rw [← through] at laterFits
    have recursive := inductionHypothesis _ laterFits
    rw [through, divided] at recursive
    rw [spliceFrom_cons starts stops, spliceFrom?, starts, List.append_assoc kept,
      Text.slice?_append, Option.bind_some, recursive, Option.map_some]

end Edit

/-! ### The passes -/

/-- The text with its placeholders filled, put together from slices. -/
def Render.interpolate? (root : Value) (text : Text) : Option Text :=
  (Placeholder.scanFrom? text 0).bind fun placeholders =>
    Edit.spliceFrom? text 0 (placeholders.filterMap (Placeholder.edit? root))

/-- What takes the place of a block. Only the body of an `each` block is scanned. -/
def Block.expansion? (root : Value) (block : Block) : Option Text :=
  match block.kind with
  | .each =>
    (((root.lookupItems block.path).getD []).mapM fun item =>
      Render.interpolate? item block.body).map List.flatten
  | .loop => some (block.expansion root)

namespace Render

/-- The text with its blocks of one kind expanded, put together from slices. -/
def expand? (kind : BlockKind) (root : Value) (text : Text) : Option Text :=
  (Block.scanFrom? kind text 0).bind fun found =>
    (found.blocks.mapM fun block : Block =>
        (block.expansion? root).map (Edit.mk block.span)).bind
      (Edit.spliceFrom? text 0)

/-- The page of a template, put together from slices. The template itself is scanned for the
`for` block that nothing closes. -/
def page? (root : Value) (template : Text) : Option Text :=
  (expand? .each root template).bind fun afterEach =>
    (Block.scanFrom? .loop template 0).bind fun _ =>
      (expand? .loop root afterEach).bind (interpolate? root)

end Render

/-! ### No pass fails -/

/-- The edits that fill placeholders have the spans of some of these, in their order. -/
theorem Placeholder.sublist_filterMap_edit? (root : Value) (placeholders : List Placeholder) :
    ((placeholders.filterMap (Placeholder.edit? root)).map Edit.span).Sublist
      (placeholders.map Placeholder.span) := by
  induction placeholders with
  | nil => exact List.Sublist.refl _
  | cons placeholder rest inductionHypothesis =>
    cases found : root.lookupText placeholder.path with
    | none =>
      have unedited : placeholder.edit? root = none := by rw [edit?, found, Option.map_none]
      rw [List.filterMap_cons_none unedited]
      exact inductionHypothesis.cons _
    | some content =>
      have edited : placeholder.edit? root = some ⟨placeholder.span, content⟩ := by
        rw [edit?, found, Option.map_some]
      rw [List.filterMap_cons_some edited]
      exact inductionHypothesis.cons_cons _

namespace Render

theorem fit_interpolate (root : Value) (text : Text) :
    Edit.Fit text ((Placeholder.scan text).filterMap (Placeholder.edit? root)) :=
  Edit.fit_of_ascending
    ((Placeholder.ascending_scan text).sublist (Placeholder.sublist_filterMap_edit? root _))

theorem fit_expand (kind : BlockKind) (root : Value) (text : Text) :
    Edit.Fit text
      ((Block.scan kind text).blocks.map fun block => ⟨block.span, block.expansion root⟩) := by
  refine Edit.fit_of_ascending ?_
  rw [List.map_map]
  exact Block.ascending_scan kind text

theorem interpolate?_eq_some (root : Value) (text : Text) :
    interpolate? root text = some (interpolate root text) := by
  have scanned : Placeholder.scanFrom? text 0 = some (Placeholder.scan text) :=
    Placeholder.scanFrom?_eq_some [] text
  rw [interpolate?, scanned, Option.bind_some]
  exact Edit.spliceFrom?_eq_some [] (fit_interpolate root text)

end Render

theorem Block.expansion?_eq_some (root : Value) (block : Block) :
    block.expansion? root = some (block.expansion root) := by
  rw [expansion?, expansion]
  cases block.kind with
  | loop => rfl
  | each =>
    have interpolated : (fun item => Render.interpolate? item block.body) =
        fun item => pure (Render.interpolate item block.body) :=
      funext fun item => Render.interpolate?_eq_some item block.body
    simp only [interpolated, List.mapM_pure]
    rfl

namespace Render

theorem expand?_eq_some (kind : BlockKind) (root : Value) (text : Text) :
    expand? kind root text = some (expand kind root text) := by
  have scanned : Block.scanFrom? kind text 0 = some (Block.scan kind text) :=
    Block.scanFrom?_eq_some kind [] text
  have expanded : (fun block : Block => (block.expansion? root).map (Edit.mk block.span)) =
      fun block => pure ⟨block.span, block.expansion root⟩ := by
    funext block
    rw [Block.expansion?_eq_some]
    rfl
  rw [expand?, scanned, Option.bind_some, expanded, List.mapM_pure]
  exact Edit.spliceFrom?_eq_some [] (fit_expand kind root text)

theorem page?_eq_some (root : Value) (template : Text) :
    page? root template = some (page root template) := by
  have scanned : Block.scanFrom? .loop template 0 = some (Block.scan .loop template) :=
    Block.scanFrom?_eq_some .loop [] template
  rw [page?, expand?_eq_some, Option.bind_some, scanned, Option.bind_some, expand?_eq_some,
    Option.bind_some, interpolate?_eq_some]
  rfl

end Render

/-! ### The places of an outline -/

theorem Position.ofOffset?_isSome_of_isBoundary {text : Text} {offset : Nat}
    (boundary : text.IsBoundary offset) : (ofOffset? text offset).isSome :=
  ofOffset?_isSome_iff.2 (Or.inl boundary)

theorem Outline.isBoundary_start {text : Text} {marker : Marker}
    (member : marker ∈ (ofText text).markers) : text.IsBoundary marker.span.start := by
  have listed := (markers_perm text).mem_iff.1 member
  rcases List.mem_append.1 listed with isBlock | isPlaceholder
  · obtain ⟨block, found, rfl⟩ := List.mem_map.1 isBlock
    rcases List.mem_append.1 found with found | found
    · exact (Block.liesIn_of_mem_scan found).start_isBoundary
    · exact (Block.liesIn_of_mem_scan found).start_isBoundary
  · obtain ⟨placeholder, free, rfl⟩ := List.mem_map.1 isPlaceholder
    exact (Placeholder.liesIn_of_mem_scan (List.mem_filter.1 free).1).start_isBoundary

theorem Outline.isBoundary_unclosed {text : Text} {unclosed : Unclosed}
    (member : unclosed ∈ (ofText text).unclosed) : text.IsBoundary unclosed.offset := by
  have listed := (unclosed_perm text).mem_iff.1 member
  rcases List.mem_append.1 listed with found | found
  · exact (Block.standsAt_of_unclosed (Option.mem_toList.1 found)).isBoundary
  · exact (Block.standsAt_of_unclosed (Option.mem_toList.1 found)).isBoundary

/-- No slice fails on any text. The spans of each scan lie in the text one behind the other, an
opener that is left over stands at its offset, the scans and the passes of every scope give
the same over slices, and all that an outline lists has a place. -/
theorem Render.slices_stay_on_boundaries (text : Text) :
    (∀ kind : BlockKind,
      Span.Ascending text ((Block.scan kind text).blocks.map Block.span) ∧
      (∀ unclosed, (Block.scan kind text).unclosed = some unclosed →
        kind.opener.StandsAt text unclosed.offset ∧ text.IsBoundary unclosed.offset) ∧
      Block.scanFrom? kind text 0 = some (Block.scan kind text)) ∧
    Span.Ascending text ((Placeholder.scan text).map Placeholder.span) ∧
    Placeholder.scanFrom? text 0 = some (Placeholder.scan text) ∧
    (∀ scope : Scope,
      (∀ kind, expand? kind scope.root text = some (scope.expand kind text).1) ∧
      interpolate? scope.root text = some (scope.interpolate text).1 ∧
      page? scope.root text = some (scope.render text).1) ∧
    (∀ marker ∈ (Outline.ofText text).markers,
      (Position.ofOffset? text marker.span.start).isSome) ∧
    ∀ unclosed ∈ (Outline.ofText text).unclosed,
      (Position.ofOffset? text unclosed.offset).isSome := by
  refine ⟨fun kind => ⟨Block.ascending_scan kind text, fun unclosed found => ?_,
    Block.scanFrom?_eq_some kind [] text⟩, Placeholder.ascending_scan text,
    Placeholder.scanFrom?_eq_some [] text, fun scope => ⟨fun kind => ?_, ?_, ?_⟩,
    fun marker member => ?_, fun unclosed member => ?_⟩
  · have stands := Block.standsAt_of_unclosed found
    exact ⟨stands, stands.isBoundary⟩
  · exact expand?_eq_some kind scope.root text
  · exact interpolate?_eq_some scope.root text
  · exact page?_eq_some scope.root text
  · exact Position.ofOffset?_isSome_of_isBoundary (Outline.isBoundary_start member)
  · exact Position.ofOffset?_isSome_of_isBoundary (Outline.isBoundary_unclosed member)

end Stencil
