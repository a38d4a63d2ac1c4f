/-
This file says which paths a rendering reports as leading nowhere. Only the last pass
reports them: a path that leads nowhere from an item is tried again from the root, so
the passes over blocks keep silent about it. The last pass reads the text that these
passes wrote, in which one placeholder of the template may stand many times; its paths
are reported once each, in the order in which they first occur, and each placeholder
that is reported stands in the page as it is written.
-/

import Stencil.Proofs.Render.LeftInPlace
import Stencil.Proofs.Render.Reports

namespace Stencil

/-- The path that a report says leads nowhere, and the suggestion. -/
def Warning.unresolved? : Warning → Option (Text × Option Text)
  | .unresolved path suggestion => some (path, suggestion)
  | _ => none

theorem Warning.unresolved?_eq_some_iff {warning : Warning} {about : Text × Option Text} :
    warning.unresolved? = some about ↔ warning = .unresolved about.1 about.2 := by
  cases warning <;> cases about <;> simp [unresolved?]

theorem Value.lookupText_eq_none {root : Value} {path : Text} (absent : root.lookup path = none) :
    root.lookupText path = none := by
  rw [lookupText, absent, Option.bind_none]

namespace Render

/-- The paths of the placeholders of a text that lead nowhere from a root, in the order of the
text. -/
def missingPaths (root : Value) (text : Text) : List Text :=
  ((Placeholder.scan text).map Placeholder.path).filter fun path => (root.lookup path).isNone

/-! ### The reports of the passes -/

theorem filterMap_unresolved?_interpolationWarnings (root : Value) (text : Text) :
    (interpolationWarnings root false text).filterMap Warning.unresolved? =
      (missingPaths root text).map fun path => (path, root.suggest? path) := by
  rw [interpolationWarnings, missingPaths, List.filterMap_filterMap]
  induction Placeholder.scan text with
  | nil => rfl
  | cons placeholder rest inductionHypothesis =>
    rw [List.filterMap_cons, List.map_cons, List.filter_cons, inductionHypothesis,
      Placeholder.warning?]
    cases found : root.lookup placeholder.path with
    | none => rfl
    | some value => cases value <;> rfl

theorem unresolved?_of_mem_item {item : Value} {text : Text} {warning : Warning}
    (member : warning ∈ interpolationWarnings item true text) : warning.unresolved? = none := by
  obtain ⟨placeholder, -, reported⟩ := mem_interpolationWarnings.1 member
  rcases Placeholder.warning?_eq_some_iff.1 reported with ⟨value, -, -, rfl⟩ | ⟨-, root, -⟩
  · rfl
  · contradiction

theorem filterMap_unresolved?_blockWarnings (kind : BlockKind) (root : Value) (text : Text) :
    (blockWarnings kind root text).filterMap Warning.unresolved? = [] := by
  refine filterMap_blockWarnings_eq_nil ?_ ?_ ?_ ?_ kind root text
  · exact fun _ _ => rfl
  · exact fun _ _ _ => rfl
  · exact fun _ _ _ => rfl
  · exact fun _ _ _ member => unresolved?_of_mem_item member

theorem filterMap_unresolved?_unclosedWarnings (kind : BlockKind) (text : Text) :
    (unclosedWarnings kind text).filterMap Warning.unresolved? = [] := by
  refine List.filterMap_eq_nil_iff.2 fun warning member => ?_
  obtain ⟨unclosed, -, rfl⟩ := mem_unclosedWarnings.1 member
  rfl

/-- Of the passes over a template only the last one reports paths that lead nowhere. -/
theorem filterMap_unresolved?_pageWarnings (root : Value) (template : Text) :
    (pageWarnings root false template).filterMap Warning.unresolved? =
      (missingPaths root (afterBlocks root template)).map fun path =>
        (path, root.suggest? path) := by
  simp only [pageWarnings, List.filterMap_append, filterMap_unresolved?_unclosedWarnings,
    filterMap_unresolved?_blockWarnings, filterMap_unresolved?_interpolationWarnings,
    List.nil_append]

end Render

theorem eraseDups_map_pair {α β : Type} [BEq α] [LawfulBEq α] [BEq β] [LawfulBEq β]
    (second : α → β) (items : List α) :
    (items.map fun item => (item, second item)).eraseDups =
      items.eraseDups.map fun item => (item, second item) := by
  have made : ∀ item pair, some (item, second item) = some pair → item = pair.1 := by
    rintro item pair ⟨⟩
    rfl
  have mapped := filterMap_eraseDups made items
  simp only [List.filterMap_eq_map'] at mapped
  exact mapped.symm

theorem filterMap_unresolved?_warnings (root : Value) (template : Text) :
    (render root template).warnings.filterMap Warning.unresolved? =
      (Render.missingPaths root (Render.afterBlocks root template)).eraseDups.map fun path =>
        (path, root.suggest? path) := by
  have kept := filterMap_warnings_render (fun _ _ => Warning.unresolved?_eq_some_iff.1)
    root template
  rw [kept, Render.filterMap_unresolved?_pageWarnings, eraseDups_map_pair]

/-- The reports that a path leads nowhere are those of the text that the last pass reads: its
paths that lead nowhere from the root, each at its first occurrence, with what the root
suggests. Every such placeholder stands in the page where it stood in that text, no item
reports a path, and no path that leads somewhere from the root is reported. -/
theorem unresolved_reports_eq (root : Value) (template : Text) :
    (render root template).warnings.filterMap Warning.unresolved? =
        (Render.missingPaths root (Render.afterBlocks root template)).eraseDups.map
          (fun path => (path, root.suggest? path)) ∧
      (∀ placeholder ∈ Placeholder.scan (Render.afterBlocks root template),
        root.lookup placeholder.path = none →
          ∃ before content after,
            Render.afterBlocks root template =
              before ++ (Placeholder.written content ++ after) ∧
            placeholder = ⟨content.trim,
              ⟨before.size, before.size + (Placeholder.written content).size⟩⟩ ∧
            (render root template).output = Render.interpolate root before ++
              (Placeholder.written content ++ Render.interpolate root after)) ∧
      (∀ item body warning, warning ∈ Render.interpolationWarnings item true body →
        warning.unresolved? = none) ∧
      ∀ path, (root.lookup path).isSome → ∀ suggestion,
        Warning.unresolved path suggestion ∉ (render root template).warnings := by
  have reports := filterMap_unresolved?_warnings root template
  refine ⟨reports, ?_, ?_, ?_⟩
  · intro placeholder member absent
    obtain ⟨before, content, after, whole, -, same, filled⟩ :=
      Render.exists_interpolate_eq_of_unfilled member (Value.lookupText_eq_none absent)
    exact ⟨before, content, after, whole, same, filled⟩
  · intro item body warning member
    exact Render.unresolved?_of_mem_item member
  · intro path resolves suggestion reported
    have listed : (path, suggestion) ∈
        (render root template).warnings.filterMap Warning.unresolved? :=
      List.mem_filterMap.2 ⟨_, reported, rfl⟩
    rw [reports] at listed
    obtain ⟨other, kept, same⟩ := List.mem_map.1 listed
    have missing := (List.mem_filter.1 (List.mem_eraseDups.1 kept)).2
    rw [(Prod.mk.inj same).1, Option.isNone_iff_eq_none] at missing
    rw [missing] at resolves
    contradiction

/-- Two rows lack a name that the root lacks as well and one that the root has. -/
theorem unresolved_reports_eq_rows :
    let root : Value := .record [("name".toList, .text ['N']),
      ("rows".toList, .list [.record [], .record []]), ("title".toList, .text ['T'])]
    let template := Block.written .each "rows".toList
      (Placeholder.written "nam".toList ++ Placeholder.written "title".toList)
    (render root template).warnings.filterMap Warning.unresolved? =
        [("nam".toList, some "name".toList)] ∧
      (∃ before content after, content.trim = "nam".toList ∧
        (render root template).output = before ++ (Placeholder.written content ++ after)) ∧
      ∀ suggestion, .unresolved "title".toList suggestion ∉ (render root template).warnings := by
  intro root template
  obtain ⟨reports, stands, -, silent⟩ := unresolved_reports_eq root template
  refine ⟨?_, ?_, ?_⟩
  · rw [reports]
    decide +kernel
  · have member : ⟨"nam".toList, ⟨0, 7⟩⟩ ∈ Placeholder.scan (Render.afterBlocks root template) := by
      decide +kernel
    have absent : root.lookup "nam".toList = none := rfl
    obtain ⟨before, content, after, -, same, output⟩ := stands _ member absent
    exact ⟨_, content, _, congrArg Placeholder.path same.symm, output⟩
  · exact silent _ rfl

end Stencil
