/-
This file renders step by step, with the scope as a state. Each pass goes through the markers
of its text in order, and a warning is recorded in the step that discovers it; an item of an
`each` block is filled in a scope of its own, whose warnings the scope around it absorbs
before the next item is looked at. What such a step reports depends on the root and on the
kind of scope, which no step changes, and not on the warnings before it. So steps that follow
one another report what each of them reports, one list behind the other, and the passes end
with the texts and the scopes that are computed for a whole text at once. That an item keeps
its own warnings first makes no difference: what it drops as recorded before would be dropped
by the scope around it.
-/

import Mathlib.Data.List.Basic
import Stencil.Proofs.Render.Reports

namespace Stencil

/-- A step of a rendering: it may look at the scope and record warnings in it. -/
abbrev Pass := StateM Scope

namespace Pass

/-! ### The passes -/

/-- Records one warning. -/
def warn (warning : Warning) : Pass Unit :=
  modify fun scope => scope.warn warning

/-- Looks up one placeholder: the edit that fills it, or none and a report. -/
def fill (placeholder : Placeholder) : Pass (Option Edit) := do
  let scope ← get
  match scope.root.lookup placeholder.path with
  | some (.text content) => return some ⟨placeholder.span, content⟩
  | some other =>
    warn (.notText placeholder.path other.shape)
    return none
  | none =>
    if scope.isItem then return none
    else
      warn (.unresolved placeholder.path (scope.root.suggest? placeholder.path))
      return none

/-- Fills the placeholders of a text. -/
def interpolate (text : Text) : Pass Text := do
  let edits ← (Placeholder.scan text).filterMapM fill
  return Edit.splice text edits

/-- Fills the body of an `each` block from one item, in a scope of its own. -/
def fillFrom (body : Text) (item : Value) : Pass Text := do
  let (copy, inner) := (interpolate body).run (Scope.ofItem item)
  modify fun scope => (scope.absorb inner).1
  return copy

/-- Looks at one item of the list of a `for` block. -/
def copyFor (body path : Text) (entry : Value × Nat) : Pass Text := do
  match entry.1 with
  | .text content => return Text.replaceAll itemToken content body
  | other =>
    warn (.skippedItem path entry.2 other.shape)
    return []

/-- Goes through the list at a path, or reports that there is none. -/
def overList (kind : BlockKind) (path : Text) (copies : List Value → Pass (List Text)) :
    Pass Text := do
  match (← get).root.lookup path with
  | some (.list items) => return (← copies items).flatten
  | other =>
    warn (.notAList kind path (Shape.ofOption other))
    return []

/-- Reports an opener of a block's own kind in its body. -/
def reportNesting (block : Block) : Pass Unit :=
  if Text.occursIn block.kind.opener block.body then warn (.nestedBlock block.kind block.path)
  else return ()

/-- Expands one block. -/
def expandBlock (block : Block) : Pass Text := do
  reportNesting block
  match block.kind with
  | .each => overList .each block.path fun items => items.mapM (fillFrom block.body)
  | .loop =>
    match LoopTarget.ofText block.target with
    | .range first last => return Block.rangeCopies block.body first last
    | .path path => overList .loop path fun items => items.zipIdx.mapM (copyFor block.body path)

/-- Expands the complete blocks of one kind in a text. -/
def expandBlocks (kind : BlockKind) (text : Text) : Pass Text := do
  let edits ← (Block.scan kind text).blocks.mapM fun block => do
    return (⟨block.span, ← expandBlock block⟩ : Edit)
  return Edit.splice text edits

/-- Reports the opener of one kind that nothing in a text closes. -/
def reportUnclosed (kind : BlockKind) (text : Text) : Pass Unit :=
  (Block.scan kind text).unclosed.forM fun unclosed =>
    warn (.unclosedBlock unclosed.kind unclosed.offset)

/-- Expands the blocks of one kind in a text. -/
def expand (kind : BlockKind) (text : Text) : Pass Text := do
  reportUnclosed kind text
  expandBlocks kind text

/-- Renders a template. -/
def render (template : Text) : Pass Text := do
  let afterEach ← expand .each template
  reportUnclosed .loop template
  let afterBlocks ← expandBlocks .loop afterEach
  interpolate afterBlocks

/-! ### What a step reports -/

/-- In every scope with a root, of an item or not, a step returns an answer and records
warnings one after the other. -/
def Reports {α : Type} (root : Value) (isItem : Bool) (step : Pass α) (answer : α)
    (found : List Warning) : Prop :=
  ∀ scope : Scope, scope.root = root → scope.isItem = isItem →
    step.run scope = (answer, scope.warnAll found)

namespace Reports

variable {α β : Type} {root : Value} {isItem : Bool}

theorem pure (answer : α) : Reports root isItem (pure answer) answer [] :=
  fun _ _ _ => rfl

theorem warn (warning : Warning) : Reports root isItem (Pass.warn warning) () [warning] :=
  fun _ _ _ => rfl

/-- Steps that follow one another report one after the other. -/
theorem bind {step : Pass α} {next : α → Pass β} {answer : α} {answer' : β}
    {found found' : List Warning} (first : Reports root isItem step answer found)
    (second : Reports root isItem (next answer) answer' found') :
    Reports root isItem (step >>= next) answer' (found ++ found') := by
  intro scope rooted kind
  have after := second (scope.warnAll found) (by rw [Scope.root_warnAll, rooted])
    (by rw [Scope.isItem_warnAll, kind])
  rw [StateT.run_bind, first scope rooted kind, Scope.warnAll_append]
  exact after

/-- What is done with an answer reports nothing. -/
theorem bind_pure {step : Pass α} {answer : α} {found : List Warning}
    (reports : Reports root isItem step answer found) (make : α → β) :
    Reports root isItem (step >>= fun value => Pure.pure (make value)) (make answer) found := by
  have both : Reports root isItem (step >>= fun value => Pure.pure (make value)) (make answer)
      (found ++ []) := reports.bind (pure (make answer))
  rwa [List.append_nil] at both

/-- A step may look at the scope that it begins in. -/
theorem get_bind {next : Scope → Pass α} {answer : α} {found : List Warning}
    (each : ∀ scope : Scope, scope.root = root → scope.isItem = isItem →
      Reports root isItem (next scope) answer found) :
    Reports root isItem (get >>= next) answer found :=
  fun scope rooted kind => each scope rooted kind scope rooted kind

theorem mapM {step : α → Pass β} {answer : α → β} {found : α → List Warning}
    (each : ∀ item, Reports root isItem (step item) (answer item) (found item))
    (items : List α) :
    Reports root isItem (items.mapM step) (items.map answer) (items.flatMap found) := by
  induction items with
  | nil => exact pure []
  | cons item rest inductionHypothesis =>
    rw [List.mapM_cons]
    exact (each item).bind (inductionHypothesis.bind_pure _)

theorem filterMapM {step : α → Pass (Option β)} {answer : α → Option β}
    {found : α → List Warning}
    (each : ∀ item, Reports root isItem (step item) (answer item) (found item))
    (items : List α) :
    Reports root isItem (items.filterMapM step) (items.filterMap answer)
      (items.flatMap found) := by
  induction items with
  | nil => exact pure []
  | cons item rest inductionHypothesis =>
    rw [List.filterMapM_cons, List.filterMap_cons, List.flatMap_cons]
    refine (each item).bind ?_
    cases answer item with
    | none => exact inductionHypothesis
    | some value => exact inductionHypothesis.bind_pure _

end Reports

/-! ### What the passes report -/

variable {root : Value} {isItem : Bool}

theorem reports_fill (placeholder : Placeholder) :
    Reports root isItem (fill placeholder) (placeholder.edit? root)
      (placeholder.warning? root isItem).toList := by
  refine Reports.get_bind fun scope rooted kind => ?_
  subst rooted kind
  rw [Placeholder.edit?, Value.lookupText, Placeholder.warning?]
  cases scope.root.lookup placeholder.path with
  | none =>
    cases scope.isItem with
    | true => exact Reports.pure none
    | false => exact (Reports.warn _).bind_pure fun _ => none
  | some value =>
    cases value with
    | text content => exact Reports.pure _
    | list items => exact (Reports.warn _).bind_pure fun _ => none
    | record fields => exact (Reports.warn _).bind_pure fun _ => none

theorem reports_interpolate (text : Text) :
    Reports root isItem (interpolate text) (Render.interpolate root text)
      (Render.interpolationWarnings root isItem text) := by
  rw [Render.interpolationWarnings, List.filterMap_eq_flatMap_toList]
  exact (Reports.filterMapM reports_fill _).bind_pure _

/-- The scope around an item absorbs what the item reports. -/
theorem reports_fillFrom (body : Text) (item : Value) :
    Reports root isItem (fillFrom body item) (Render.interpolate item body)
      (Render.interpolationWarnings item true body) := by
  intro scope _ _
  have inside : (interpolate body).run (Scope.ofItem item) = (Render.interpolate item body,
      (Scope.ofItem item).warnAll (Render.interpolationWarnings item true body)) :=
    reports_interpolate body (Scope.ofItem item) rfl rfl
  have kept : ((Scope.ofItem item).warnAll (Render.interpolationWarnings item true body)).warnings =
      (Render.interpolationWarnings item true body).eraseDups :=
    Scope.warnings_warnAll_of_nodup List.nodup_nil _
  show (((interpolate body).run (Scope.ofItem item)).1,
    scope.warnAll ((interpolate body).run (Scope.ofItem item)).2.warnings) = _
  rw [inside]
  show (_, scope.warnAll (Scope.warnAll _ _).warnings) = _
  rw [kept, Scope.warnAll_eraseDups]

/-- What becomes of one item of the list of a `for` block. -/
theorem reports_copyFor (body path : Text) (entry : Value × Nat) :
    Reports root isItem (copyFor body path entry)
      ((entry.1.text?.map fun content => Text.replaceAll itemToken content body).getD [])
      (match entry.1 with
        | .text _ => none
        | other => some (Warning.skippedItem path entry.2 other.shape)).toList := by
  obtain ⟨item, index⟩ := entry
  cases item with
  | text content => exact Reports.pure _
  | list items => exact (Reports.warn _).bind_pure fun _ => []
  | record fields => exact (Reports.warn _).bind_pure fun _ => []

theorem reports_overList {kind : BlockKind} {path : Text}
    {copies : List Value → Pass (List Text)} {answer : List Value → List Text}
    {found : List Value → List Warning}
    (each : ∀ items, Reports root isItem (copies items) (answer items) (found items))
    (nothing : answer [] = []) :
    Reports root isItem (overList kind path copies)
      (answer ((root.lookupItems path).getD [])).flatten
      (Block.listWarnings root kind path found) := by
  refine Reports.get_bind fun scope rooted _ => ?_
  subst rooted
  have noList : ∀ reached : Option Value, Reports scope.root isItem
      (do warn (.notAList kind path (Shape.ofOption reached)); return [])
      (answer []).flatten [.notAList kind path (Shape.ofOption reached)] := by
    intro reached
    rw [nothing]
    exact (Reports.warn _).bind_pure fun _ => []
  rw [Block.listWarnings, Value.lookupItems]
  cases scope.root.lookup path with
  | none => exact noList none
  | some value =>
    cases value with
    | text content => exact noList _
    | list items => exact (each items).bind_pure List.flatten
    | record fields => exact noList _

/-- The copies for the items of a list, the items that are no texts leaving nothing. -/
theorem flatten_copies (body : Text) (items : List Value) :
    (items.zipIdx.map fun entry =>
      (entry.1.text?.map fun content => Text.replaceAll itemToken content body).getD []).flatten =
      Block.listCopies body items := by
  suffices ∀ start, ((items.zipIdx start).map fun entry =>
      (entry.1.text?.map fun content => Text.replaceAll itemToken content body).getD []).flatten =
      Block.listCopies body items from this 0
  induction items with
  | nil => exact fun _ => rfl
  | cons item rest inductionHypothesis =>
    intro start
    rw [List.zipIdx_cons, List.map_cons, List.flatten_cons, inductionHypothesis,
      Block.listCopies, Block.listCopies, List.filterMap_cons]
    cases item <;> rfl

/-- What becomes of the list of a `for` block. -/
theorem reports_overTexts (path body : Text) :
    Reports root isItem
      (overList .loop path fun items => items.zipIdx.mapM (copyFor body path))
      (Block.listCopies body ((root.lookupItems path).getD []))
      (Block.listWarnings root .loop path (Block.skippedWarnings path)) := by
  have skipped : Block.skippedWarnings path = fun items => items.zipIdx.flatMap fun entry =>
      (match entry.1 with
        | .text _ => none
        | other => some (Warning.skippedItem path entry.2 other.shape)).toList := by
    funext items
    exact List.filterMap_eq_flatMap_toList _ items.zipIdx
  rw [← flatten_copies, skipped]
  exact reports_overList (fun items => Reports.mapM (reports_copyFor body path) items.zipIdx) rfl

theorem reports_reportNesting (block : Block) :
    Reports root isItem (reportNesting block) () block.nestingWarnings := by
  rw [reportNesting, Block.nestingWarnings]
  split
  · exact Reports.warn _
  · exact Reports.pure ()

theorem reports_expandBlock (block : Block) :
    Reports root isItem (expandBlock block) (block.expansion root) (block.warnings root) := by
  rw [expandBlock, Block.warnings, Block.expansion]
  refine (reports_reportNesting block).bind ?_
  cases block.kind with
  | each =>
    exact reports_overList (fun items => Reports.mapM (reports_fillFrom block.body) items) rfl
  | loop =>
    cases LoopTarget.ofText block.target with
    | range first last => exact Reports.pure _
    | path path => exact reports_overTexts path block.body

theorem reports_expandBlocks (kind : BlockKind) (text : Text) :
    Reports root isItem (expandBlocks kind text) (Render.expand kind root text)
      (Render.blockWarnings kind root text) :=
  (Reports.mapM (fun block => (reports_expandBlock block).bind_pure _) _).bind_pure _

theorem reports_reportUnclosed (kind : BlockKind) (text : Text) :
    Reports root isItem (reportUnclosed kind text) () (Render.unclosedWarnings kind text) := by
  rw [reportUnclosed, Render.unclosedWarnings]
  cases (Block.scan kind text).unclosed with
  | none => exact Reports.pure ()
  | some unclosed => exact Reports.warn _

theorem reports_expand (kind : BlockKind) (text : Text) :
    Reports root isItem (expand kind text) (Render.expand kind root text)
      (Render.unclosedWarnings kind text ++ Render.blockWarnings kind root text) :=
  (reports_reportUnclosed kind text).bind (reports_expandBlocks kind text)

theorem reports_render (template : Text) :
    Reports root isItem (render template) (Render.page root template)
      (Render.pageWarnings root isItem template) := by
  have inOrder : Render.pageWarnings root isItem template =
      (Render.unclosedWarnings .each template ++ Render.blockWarnings .each root template) ++
        (Render.unclosedWarnings .loop template ++
          (Render.blockWarnings .loop root (Render.afterEach root template) ++
            Render.interpolationWarnings root isItem (Render.afterBlocks root template))) := by
    simp only [Render.pageWarnings, List.append_assoc]
  rw [render, inOrder]
  exact (reports_expand .each template).bind ((reports_reportUnclosed .loop template).bind
    ((reports_expandBlocks .loop _).bind (reports_interpolate _)))

/-! ### Step by step and at once -/

theorem run_interpolate (scope : Scope) (text : Text) :
    (interpolate text).run scope = scope.interpolate text :=
  reports_interpolate text scope rfl rfl

theorem run_expand (scope : Scope) (kind : BlockKind) (text : Text) :
    (expand kind text).run scope = scope.expand kind text :=
  reports_expand kind text scope rfl rfl

theorem run_render (scope : Scope) (template : Text) :
    (render template).run scope = scope.render template :=
  reports_render template scope rfl rfl

end Pass

end Stencil
