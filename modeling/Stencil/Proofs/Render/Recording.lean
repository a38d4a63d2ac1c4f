/-
This file follows the warnings of a scope through whatever is asked of it: texts that are
filled, expanded and rendered, warnings that are added, warnings of other scopes that are
absorbed, and the collected warnings that are taken. What an operation discovers depends on
the root and on the kind of scope, and these never change. So one list says all: the
discoveries of the operations in order, begun anew where the warnings are taken. The scope
holds the first occurrences of that list, which is why no warning stands twice and every
operation but the taking leaves what was there in front.
-/

import Stencil.Proofs.Render.Passes

namespace Stencil

/-- What can be asked of a scope. -/
inductive ScopeOperation where
  | interpolate (text : Text)
  | expand (kind : BlockKind) (text : Text)
  | render (template : Text)
  | warn (warning : Warning)
  /-- A text is filled in another scope, whose warnings are absorbed. -/
  | absorbFilled (inner : Scope) (text : Text)
  | takeWarnings

/-- What an operation on a scope answers. -/
inductive ScopeAnswer where
  | text (output : Text)
  | recorded
  /-- The text that was filled, and the scope it was filled in as it is left. -/
  | absorbed (output : Text) (emptied : Scope)
  | taken (warnings : List Warning)

namespace Scope

/-- What an operation answers, and the scope afterwards. -/
def perform (scope : Scope) : ScopeOperation → ScopeAnswer × Scope
  | .interpolate text =>
    let (output, after) := scope.interpolate text
    (.text output, after)
  | .expand kind text =>
    let (output, after) := scope.expand kind text
    (.text output, after)
  | .render template =>
    let (output, after) := scope.render template
    (.text output, after)
  | .warn warning => (.recorded, scope.warn warning)
  | .absorbFilled inner text =>
    let (output, filled) := inner.interpolate text
    let (after, emptied) := scope.absorb filled
    (.absorbed output emptied, after)
  | .takeWarnings =>
    let (warnings, after) := scope.takeWarnings
    (.taken warnings, after)

/-- The scope after a run of operations. -/
def performAll (scope : Scope) (operations : List ScopeOperation) : Scope :=
  operations.foldl (fun current operation => (current.perform operation).2) scope

theorem performAll_cons (scope : Scope) (operation : ScopeOperation)
    (later : List ScopeOperation) :
    scope.performAll (operation :: later) = (scope.perform operation).2.performAll later :=
  rfl

end Scope

namespace ScopeOperation

/-- An operation step by step, the passes over a text included. -/
def steps : ScopeOperation → Pass ScopeAnswer
  | interpolate text => do return .text (← Pass.interpolate text)
  | expand kind text => do return .text (← Pass.expand kind text)
  | render template => do return .text (← Pass.render template)
  | warn warning => do
    Pass.warn warning
    return .recorded
  | absorbFilled inner text => do
    let (output, filled) := (Pass.interpolate text).run inner
    let (after, emptied) := (← get).absorb filled
    set after
    return .absorbed output emptied
  | takeWarnings => do
    let (warnings, after) := (← get).takeWarnings
    set after
    return .taken warnings

/-- What an operation discovers, in order. -/
def found (root : Value) (isItem : Bool) : ScopeOperation → List Warning
  | interpolate text => Render.interpolationWarnings root isItem text
  | expand kind text => Render.unclosedWarnings kind text ++ Render.blockWarnings kind root text
  | render template => Render.pageWarnings root isItem template
  | warn warning => [warning]
  | absorbFilled inner text => (inner.interpolate text).2.warnings
  | takeWarnings => []

/-- The discoveries since the warnings were last taken, after one more operation. -/
def log (root : Value) (isItem : Bool) (earlier : List Warning) : ScopeOperation → List Warning
  | takeWarnings => []
  | operation => earlier ++ operation.found root isItem

theorem log_of_ne_take (root : Value) (isItem : Bool) (earlier : List Warning)
    {operation : ScopeOperation} (keeps : operation ≠ takeWarnings) :
    operation.log root isItem earlier = earlier ++ operation.found root isItem := by
  cases operation <;> first | rfl | contradiction

end ScopeOperation

namespace Scope

/-! ### One operation -/

/-- Step by step an operation answers the same and leaves the same scope. -/
theorem run_steps (scope : Scope) (operation : ScopeOperation) :
    operation.steps.run scope = scope.perform operation := by
  cases operation with
  | interpolate text =>
    rw [ScopeOperation.steps, StateT.run_bind, Pass.run_interpolate]
    rfl
  | expand kind text =>
    rw [ScopeOperation.steps, StateT.run_bind, Pass.run_expand]
    rfl
  | render template =>
    rw [ScopeOperation.steps, StateT.run_bind, Pass.run_render]
    rfl
  | warn warning => rfl
  | absorbFilled inner text =>
    rw [ScopeOperation.steps, Pass.run_interpolate]
    rfl
  | takeWarnings => rfl

/-- Every operation but the taking records what it discovers, and does nothing else. -/
theorem perform_of_ne_take (scope : Scope) {operation : ScopeOperation}
    (keeps : operation ≠ .takeWarnings) :
    (scope.perform operation).2 =
      scope.warnAll (operation.found scope.root scope.isItem) := by
  cases operation <;> first | rfl | contradiction

/-- All that an operation can do: take the warnings, or record what it discovers. -/
theorem perform_cases (scope : Scope) (operation : ScopeOperation) :
    (operation = .takeWarnings ∧ (scope.perform operation).2 = { scope with warnings := [] }) ∨
      (operation ≠ .takeWarnings ∧ (scope.perform operation).2 =
        scope.warnAll (operation.found scope.root scope.isItem)) := by
  by_cases taking : operation = .takeWarnings
  · subst taking
    exact Or.inl ⟨rfl, rfl⟩
  · exact Or.inr ⟨taking, scope.perform_of_ne_take taking⟩

/-- The scope that a text was filled in is left as it was, but without warnings. -/
theorem answer_absorbFilled (scope inner : Scope) (text : Text) :
    (scope.perform (.absorbFilled inner text)).1 =
      .absorbed (inner.interpolate text).1 { inner with warnings := [] } := by
  show ScopeAnswer.absorbed _ ⟨(inner.interpolate text).2.root,
    (inner.interpolate text).2.isItem, []⟩ = _
  rw [Scope.interpolate, root_warnAll, isItem_warnAll]

theorem root_perform (scope : Scope) (operation : ScopeOperation) :
    (scope.perform operation).2.root = scope.root := by
  obtain ⟨-, after⟩ | ⟨-, after⟩ := scope.perform_cases operation
  · rw [after]
  · rw [after, root_warnAll]

theorem isItem_perform (scope : Scope) (operation : ScopeOperation) :
    (scope.perform operation).2.isItem = scope.isItem := by
  obtain ⟨-, after⟩ | ⟨-, after⟩ := scope.perform_cases operation
  · rw [after]
  · rw [after, isItem_warnAll]

/-- A scope that holds the first occurrences of a log holds those of the log that an operation
goes on with. -/
theorem warnings_perform {scope : Scope} {log : List Warning}
    (holds : scope.warnings = log.eraseDups) (operation : ScopeOperation) :
    (scope.perform operation).2.warnings =
      (operation.log scope.root scope.isItem log).eraseDups := by
  obtain ⟨rfl, after⟩ | ⟨keeps, after⟩ := scope.perform_cases operation
  · rw [after]
    rfl
  · rw [after, operation.log_of_ne_take _ _ _ keeps, warnings_warnAll, holds, foldl_record]

theorem nodup_warnAll {scope : Scope} (distinct : scope.warnings.Nodup) (found : List Warning) :
    (scope.warnAll found).warnings.Nodup := by
  induction found generalizing scope with
  | nil => exact distinct
  | cons warning rest inductionHypothesis =>
    have recorded : (scope.warn warning).warnings.Nodup := nodup_record distinct warning
    exact inductionHypothesis recorded

theorem nodup_perform {scope : Scope} (distinct : scope.warnings.Nodup)
    (operation : ScopeOperation) : (scope.perform operation).2.warnings.Nodup := by
  obtain ⟨-, after⟩ | ⟨-, after⟩ := scope.perform_cases operation
  · rw [after]
    exact List.nodup_nil
  · rw [after]
    exact nodup_warnAll distinct _

/-- What an operation appends are the first occurrences of what is new among its discoveries. -/
theorem warnings_perform_of_nodup {scope : Scope} (distinct : scope.warnings.Nodup)
    {operation : ScopeOperation} (keeps : operation ≠ .takeWarnings) :
    (scope.perform operation).2.warnings = scope.warnings ++
      ((operation.found scope.root scope.isItem).filter (· ∉ scope.warnings)).eraseDups := by
  rw [perform_of_ne_take scope keeps, warnings_warnAll_of_nodup distinct, List.eraseDups_append,
    eraseDups_eq_self distinct, List.removeAll]
  have same : (fun warning => !scope.warnings.elem warning) =
      fun warning => decide (warning ∉ scope.warnings) := by
    funext warning
    simp
  rw [same]

/-! ### A run of operations -/

theorem root_performAll (scope : Scope) (operations : List ScopeOperation) :
    (scope.performAll operations).root = scope.root := by
  induction operations generalizing scope with
  | nil => rfl
  | cons operation later inductionHypothesis =>
    rw [performAll_cons, inductionHypothesis, root_perform]

theorem isItem_performAll (scope : Scope) (operations : List ScopeOperation) :
    (scope.performAll operations).isItem = scope.isItem := by
  induction operations generalizing scope with
  | nil => rfl
  | cons operation later inductionHypothesis =>
    rw [performAll_cons, inductionHypothesis, isItem_perform]

theorem nodup_performAll {scope : Scope} (distinct : scope.warnings.Nodup)
    (operations : List ScopeOperation) : (scope.performAll operations).warnings.Nodup := by
  induction operations generalizing scope with
  | nil => exact distinct
  | cons operation later inductionHypothesis =>
    exact inductionHypothesis (nodup_perform distinct operation)

theorem warnings_performAll {scope : Scope} {log : List Warning}
    (holds : scope.warnings = log.eraseDups) (operations : List ScopeOperation) :
    (scope.performAll operations).warnings =
      (operations.foldl (fun earlier operation => operation.log scope.root scope.isItem earlier)
        log).eraseDups := by
  induction operations generalizing scope log with
  | nil => exact holds
  | cons operation later inductionHypothesis =>
    have went := inductionHypothesis (warnings_perform holds operation)
    rwa [root_perform, isItem_perform] at went

end Scope

/-- Warnings are recorded once, in the order in which they are discovered. After any run of
operations on a scope without double warnings, the scope has its root and its kind, and its
warnings are the first occurrences of what was there and what was discovered, in order, or of
what was discovered since they were last taken. So none stands twice. The next operation, if
it does not take them, leaves them in front and appends what it discovers that is not among
them, each at its first occurrence; and step by step, with a scope for each item, it answers
the same and leaves the same scope. Absorbing loses no warning of the other scope and leaves
that scope without any; and taking returns all warnings and leaves none. -/
theorem warnings_recorded_once (start : Scope) (distinct : start.warnings.Nodup)
    (operations : List ScopeOperation) :
    let scope := start.performAll operations
    scope.root = start.root ∧ scope.isItem = start.isItem ∧ scope.warnings.Nodup ∧
      scope.warnings = (operations.foldl
        (fun earlier operation => operation.log start.root start.isItem earlier)
        start.warnings).eraseDups ∧
      (∀ operation, operation ≠ .takeWarnings →
        (scope.perform operation).2.warnings = scope.warnings ++
          ((operation.found start.root start.isItem).filter (· ∉ scope.warnings)).eraseDups) ∧
      (∀ operation : ScopeOperation, operation.steps.run scope = scope.perform operation) ∧
      (∀ inner text,
        (scope.perform (.absorbFilled inner text)).1 =
            .absorbed (inner.interpolate text).1 { inner with warnings := [] } ∧
          ∀ warning ∈ (inner.interpolate text).2.warnings,
            warning ∈ (scope.perform (.absorbFilled inner text)).2.warnings) ∧
      scope.perform .takeWarnings = (.taken scope.warnings, { scope with warnings := [] }) := by
  intro scope
  have rooted : scope.root = start.root := start.root_performAll operations
  have kind : scope.isItem = start.isItem := start.isItem_performAll operations
  have logged := Scope.warnings_performAll (eraseDups_eq_self distinct).symm operations
  refine ⟨rooted, kind, Scope.nodup_performAll distinct operations, logged, ?_, scope.run_steps,
    ?_, rfl⟩
  · intro operation keeps
    rw [← rooted, ← kind]
    exact Scope.warnings_perform_of_nodup (Scope.nodup_performAll distinct operations) keeps
  · intro inner text
    exact ⟨scope.answer_absorbFilled inner text,
      fun warning member => Scope.mem_warnings_warnAll.2 (Or.inr member)⟩

/-- The same report of a scope, of another one and from outside is recorded once, and a later
report stands behind it. -/
theorem warnings_recorded_once_shared :
    let root : Value := .record [(['l'], .list [])]
    let marker := Placeholder.written ['l']
    let report : Warning := .notText ['l'] .list
    let scope := (Scope.ofRoot root).performAll
      [.interpolate marker, .absorbFilled (Scope.ofItem root) marker, .warn report]
    (Scope.ofRoot root).warnings.Nodup ∧ scope.warnings = [report] ∧
      (scope.perform (.interpolate (marker ++ Placeholder.written ['m']))).2.warnings =
        [report, .unresolved ['m'] (some ['l'])] ∧
      scope.perform .takeWarnings = (.taken [report], ⟨root, false, []⟩) := by
  intro root marker report scope
  obtain ⟨rooted, kind, -, logged, appends, -, -, taken⟩ := warnings_recorded_once
    (Scope.ofRoot root) List.nodup_nil
    [.interpolate marker, .absorbFilled (Scope.ofItem root) marker, .warn report]
  have held : scope.warnings = [report] := logged.trans (by decide +kernel)
  have appended := appends (.interpolate (marker ++ Placeholder.written ['m'])) nofun
  refine ⟨List.nodup_nil, held, appended.trans ?_, taken.trans ?_⟩
  · show scope.warnings ++ List.eraseDups (List.filter (· ∉ scope.warnings) _) = _
    rw [held]
    decide +kernel
  · show (ScopeAnswer.taken scope.warnings, Scope.mk scope.root scope.isItem []) = _
    rw [held, show scope.root = root from rooted, show scope.isItem = false from kind]

end Stencil
