/-
This file says what a rendering can report and what recording keeps of it. Each pass
reports only a few sorts of things, listed here once: a placeholder is reported for
what its path leads to, and a block for an opener in its body, for its target and
for what the items of its list make of its body. A report is kept where it is first
made and dropped where it is made again, so a rendering returns what its passes
report, each report once and in the order of discovery. A sort of report that can be
made again from what it is about can therefore be looked at alone.
-/

import Mathlib.Data.List.Induction
import Stencil.Render.Page

namespace Stencil

/-! ### What a pass can report -/

/-- A placeholder is reported when its path leads to a list or a record and, except for an item,
when it leads nowhere. -/
theorem Placeholder.warning?_eq_some_iff {root : Value} {isItem : Bool} {placeholder : Placeholder}
    {warning : Warning} : placeholder.warning? root isItem = some warning ↔
      (∃ value, root.lookup placeholder.path = some value ∧ value.text? = none ∧
        warning = .notText placeholder.path value.shape) ∨
      (root.lookup placeholder.path = none ∧ isItem = false ∧
        warning = .unresolved placeholder.path (root.suggest? placeholder.path)) := by
  rw [warning?]
  cases found : root.lookup placeholder.path with
  | none => cases isItem <;> simp [eq_comm]
  | some value => cases value <;> simp [Value.text?, eq_comm]

theorem Render.mem_interpolationWarnings {root : Value} {isItem : Bool} {text : Text}
    {warning : Warning} : warning ∈ interpolationWarnings root isItem text ↔
      ∃ placeholder ∈ Placeholder.scan text, placeholder.warning? root isItem = some warning :=
  List.mem_filterMap

/-- A block is reported for an opener in its body, for its target, for the items of its list
that are no texts, or for what an item makes of its body. -/
theorem Block.cases_of_mem_warnings {root : Value} {block : Block} {warning : Warning}
    (member : warning ∈ block.warnings root) :
    warning = .nestedBlock block.kind block.path ∨
    (∃ kind target found, warning = .notAList kind target found) ∨
    (∃ target index found, warning = .skippedItem target index found) ∨
    (block.kind = .each ∧ ∃ item ∈ (root.lookupItems block.path).getD [],
      warning ∈ Render.interpolationWarnings item true block.body) := by
  rw [warnings] at member
  rcases List.mem_append.1 member with nested | ofTarget
  · rw [nestingWarnings] at nested
    split at nested
    · exact Or.inl (List.mem_singleton.1 nested)
    · exact absurd nested List.not_mem_nil
  · right
    cases kind : block.kind with
    | each =>
      simp only [kind, listWarnings] at ofTarget
      split at ofTarget
      · rename_i items found
        obtain ⟨item, itemMember, reported⟩ := List.mem_flatMap.1 ofTarget
        refine Or.inr (Or.inr ⟨rfl, item, ?_, reported⟩)
        rw [Value.lookupItems, found]
        exact itemMember
      · exact Or.inl ⟨_, _, _, List.mem_singleton.1 ofTarget⟩
    | loop =>
      simp only [kind, listWarnings] at ofTarget
      split at ofTarget
      · exact absurd ofTarget List.not_mem_nil
      · split at ofTarget
        · obtain ⟨⟨item, index⟩, -, reported⟩ := List.mem_filterMap.1 ofTarget
          cases item with
          | text content => exact absurd reported (by simp)
          | list items => exact Or.inr (Or.inl ⟨_, _, _, (Option.some.inj reported).symm⟩)
          | record fields => exact Or.inr (Or.inl ⟨_, _, _, (Option.some.inj reported).symm⟩)
        · exact Or.inl ⟨_, _, _, List.mem_singleton.1 ofTarget⟩

/-- The pass over blocks makes no report of a sort that neither a block nor an item reports. -/
theorem Render.filterMap_blockWarnings_eq_nil {β : Type} {subject? : Warning → Option β}
    (nested : ∀ kind target, subject? (.nestedBlock kind target) = none)
    (notAList : ∀ kind target found, subject? (.notAList kind target found) = none)
    (skipped : ∀ target index found, subject? (.skippedItem target index found) = none)
    (ofItem : ∀ item body, ∀ warning ∈ interpolationWarnings item true body,
      subject? warning = none)
    (kind : BlockKind) (root : Value) (text : Text) :
    (blockWarnings kind root text).filterMap subject? = [] := by
  refine List.filterMap_eq_nil_iff.2 fun warning member => ?_
  obtain ⟨block, -, reported⟩ := List.mem_flatMap.1 member
  rcases Block.cases_of_mem_warnings reported with
    rfl | ⟨_, _, _, rfl⟩ | ⟨_, _, _, rfl⟩ | ⟨-, item, -, reportedByItem⟩
  · exact nested _ _
  · exact notAList _ _ _
  · exact skipped _ _ _
  · exact ofItem item block.body warning reportedByItem

theorem Render.mem_unclosedWarnings {kind : BlockKind} {text : Text} {warning : Warning} :
    warning ∈ unclosedWarnings kind text ↔ ∃ unclosed,
      (Block.scan kind text).unclosed = some unclosed ∧
        warning = .unclosedBlock unclosed.kind unclosed.offset := by
  simp only [unclosedWarnings, List.mem_map, Option.mem_toList, eq_comm]

/-- What is reported of a template is reported by one of its passes. -/
theorem Render.mem_pageWarnings {root : Value} {isItem : Bool} {template : Text}
    {warning : Warning} : warning ∈ pageWarnings root isItem template ↔
      (∃ kind, warning ∈ unclosedWarnings kind template) ∨
      warning ∈ blockWarnings .each root template ∨
      warning ∈ blockWarnings .loop root (afterEach root template) ∨
      warning ∈ interpolationWarnings root isItem (afterBlocks root template) := by
  have kinds : (∃ kind, warning ∈ unclosedWarnings kind template) ↔
      warning ∈ unclosedWarnings .each template ∨ warning ∈ unclosedWarnings .loop template := by
    constructor
    · rintro ⟨kind, member⟩
      cases kind with
      | each => exact Or.inl member
      | loop => exact Or.inr member
    · rintro (member | member)
      · exact ⟨.each, member⟩
      · exact ⟨.loop, member⟩
  rw [kinds, pageWarnings]
  simp only [List.mem_append]
  tauto

/-! ### Keeping first occurrences -/

section

variable {α β : Type} [BEq α] [LawfulBEq α] [BEq β] [LawfulBEq β]

theorem eraseDups_append_singleton (items : List α) (item : α) :
    (items ++ [item]).eraseDups =
      if item ∈ items then items.eraseDups else items.eraseDups ++ [item] := by
  rw [List.eraseDups_append, List.removeAll]
  by_cases member : item ∈ items
  · simp [member]
  · simp [member, List.eraseDups_cons]

theorem eraseDups_eq_self {items : List α} (distinct : items.Nodup) : items.eraseDups = items := by
  induction items using List.reverseRec with
  | nil => rfl
  | append_singleton before item inductionHypothesis =>
    obtain ⟨beforeDistinct, -, apart⟩ := List.nodup_append.1 distinct
    have fresh : item ∉ before := by
      intro member
      exact apart item member item (List.mem_singleton_self item) rfl
    rw [eraseDups_append_singleton, if_neg fresh, inductionHypothesis beforeDistinct]

/-- Items that can be made again from what they are mapped to are mapped before or after the later
copies are dropped. -/
theorem filterMap_eraseDups {subject? : α → Option β} {make : β → α}
    (made : ∀ item subject, subject? item = some subject → item = make subject) (items : List α) :
    items.eraseDups.filterMap subject? = (items.filterMap subject?).eraseDups := by
  induction items using List.reverseRec with
  | nil => rfl
  | append_singleton before item inductionHypothesis =>
    rw [eraseDups_append_singleton, List.filterMap_append]
    cases about : subject? item with
    | none =>
      have nothing : [item].filterMap subject? = [] := by simp [about]
      rw [nothing, List.append_nil, ← inductionHypothesis]
      by_cases member : item ∈ before
      · rw [if_pos member]
      · rw [if_neg member, List.filterMap_append, nothing, List.append_nil]
    | some subject =>
      have one : [item].filterMap subject? = [subject] := by simp [about]
      have listed : subject ∈ before.filterMap subject? ↔ item ∈ before := by
        rw [List.mem_filterMap]
        constructor
        · rintro ⟨other, member, same⟩
          rwa [made item subject about, ← made other subject same]
        · intro member
          exact ⟨item, member, about⟩
      rw [one, eraseDups_append_singleton]
      by_cases member : item ∈ before
      · rw [if_pos member, if_pos (listed.2 member), inductionHypothesis]
      · rw [if_neg member, if_neg (mt listed.1 member), List.filterMap_append, one,
          inductionHypothesis]

end

/-! ### What a rendering returns -/

/-- A warning that is recorded already changes nothing. -/
theorem Scope.warn_of_mem {scope : Scope} {warning : Warning}
    (member : warning ∈ scope.warnings) : scope.warn warning = scope := by
  rw [warn, record, if_pos member]

/-- What a scope has recorded was recorded before or is recorded now. -/
theorem Scope.mem_warnings_warnAll {scope : Scope} {warnings : List Warning} {warning : Warning} :
    warning ∈ (scope.warnAll warnings).warnings ↔
      warning ∈ scope.warnings ∨ warning ∈ warnings := by
  induction warnings generalizing scope with
  | nil => simp [warnAll]
  | cons first rest inductionHypothesis =>
    show warning ∈ ((scope.warn first).warnAll rest).warnings ↔ _
    rw [inductionHypothesis, warn, mem_record, List.mem_cons, or_assoc]

/-- Recording goes on from what was kept of the earlier reports. -/
theorem Scope.foldl_record (earlier later : List Warning) :
    later.foldl record earlier.eraseDups = (earlier ++ later).eraseDups := by
  induction later generalizing earlier with
  | nil => rw [List.foldl_nil, List.append_nil]
  | cons warning rest inductionHypothesis =>
    have recorded : record earlier.eraseDups warning = (earlier ++ [warning]).eraseDups := by
      simp only [eraseDups_append_singleton, record, List.mem_eraseDups]
    rw [List.foldl_cons, recorded, inductionHypothesis, List.append_assoc,
      List.singleton_append]

/-- A scope without double warnings keeps them and appends the first occurrences of those that
are new to it. -/
theorem Scope.warnings_warnAll_of_nodup {scope : Scope} (distinct : scope.warnings.Nodup)
    (found : List Warning) :
    (scope.warnAll found).warnings = (scope.warnings ++ found).eraseDups := by
  rw [warnings_warnAll, ← foldl_record, eraseDups_eq_self distinct]

/-- It is enough to record first occurrences. -/
theorem Scope.warnAll_eraseDups (scope : Scope) (found : List Warning) :
    scope.warnAll found.eraseDups = scope.warnAll found := by
  induction found using List.reverseRec with
  | nil => rfl
  | append_singleton before warning inductionHypothesis =>
    rw [eraseDups_append_singleton, warnAll_append]
    split
    · rename_i member
      have recorded : warning ∈ (scope.warnAll before).warnings :=
        mem_warnings_warnAll.2 (Or.inr member)
      rw [inductionHypothesis]
      exact (warn_of_mem recorded).symm
    · rw [warnAll_append, inductionHypothesis]

theorem warnings_render (root : Value) (template : Text) :
    (render root template).warnings = (Render.pageWarnings root false template).eraseDups :=
  (Scope.warnings_warnAll _ _).trans (Scope.foldl_record [] _)

theorem mem_warnings_render {root : Value} {template : Text} {warning : Warning} :
    warning ∈ (render root template).warnings ↔
      warning ∈ Render.pageWarnings root false template := by
  rw [warnings_render, List.mem_eraseDups]

/-- The reports of one sort are kept as if they were recorded alone. -/
theorem filterMap_warnings_render {β : Type} [BEq β] [LawfulBEq β] {subject? : Warning → Option β}
    {make : β → Warning}
    (made : ∀ warning subject, subject? warning = some subject → warning = make subject)
    (root : Value) (template : Text) :
    (render root template).warnings.filterMap subject? =
      ((Render.pageWarnings root false template).filterMap subject?).eraseDups := by
  rw [warnings_render]
  exact filterMap_eraseDups made _

end Stencil
