/-
This file holds the state of a rendering: the value that paths start from and the
warnings collected so far. A warning is recorded once, where it is first
discovered. The items of an `each` block are rendered in a scope of their own,
whose warnings go to the scope around it.
-/

import Stencil.Render.Warning

namespace Stencil

/-- The state of a rendering. -/
structure Scope where
  /-- The value that paths start from. -/
  root : Value
  /-- Whether the root is an item of an `each` block, so that a path that leads nowhere
  here is tried again from the root around it. -/
  isItem : Bool
  /-- The warnings in the order of discovery, none twice. -/
  warnings : List Warning

namespace Scope

/-- The scope of a whole template. -/
def ofRoot (root : Value) : Scope :=
  ⟨root, false, []⟩

/-- The scope of one item of an `each` block. -/
def ofItem (item : Value) : Scope :=
  ⟨item, true, []⟩

/-- The warnings with one recorded, unless it is there already. -/
def record (warnings : List Warning) (warning : Warning) : List Warning :=
  if warning ∈ warnings then warnings else warnings ++ [warning]

/-- The scope with one warning recorded. -/
def warn (scope : Scope) (warning : Warning) : Scope :=
  { scope with warnings := record scope.warnings warning }

/-- The scope with warnings recorded one after the other. -/
def warnAll (scope : Scope) (warnings : List Warning) : Scope :=
  warnings.foldl warn scope

/-- The warnings, and the scope without them. -/
def takeWarnings (scope : Scope) : List Warning × Scope :=
  (scope.warnings, { scope with warnings := [] })

/-- The scope with the warnings of another recorded, and the other without them. -/
def absorb (scope inner : Scope) : Scope × Scope :=
  let (warnings, emptied) := inner.takeWarnings
  (scope.warnAll warnings, emptied)

/-! ### What recording keeps -/

@[simp] theorem root_warnAll (scope : Scope) (warnings : List Warning) :
    (scope.warnAll warnings).root = scope.root := by
  induction warnings generalizing scope with
  | nil => rfl
  | cons warning rest inductionHypothesis => exact inductionHypothesis (scope.warn warning)

@[simp] theorem isItem_warnAll (scope : Scope) (warnings : List Warning) :
    (scope.warnAll warnings).isItem = scope.isItem := by
  induction warnings generalizing scope with
  | nil => rfl
  | cons warning rest inductionHypothesis => exact inductionHypothesis (scope.warn warning)

theorem warnings_warnAll (scope : Scope) (warnings : List Warning) :
    (scope.warnAll warnings).warnings = warnings.foldl record scope.warnings := by
  induction warnings generalizing scope with
  | nil => rfl
  | cons warning rest inductionHypothesis => exact inductionHypothesis (scope.warn warning)

theorem warnAll_append (scope : Scope) (before after : List Warning) :
    scope.warnAll (before ++ after) = (scope.warnAll before).warnAll after :=
  List.foldl_append

/-- Recording a warning never makes it stand twice. -/
theorem nodup_record {warnings : List Warning} (distinct : warnings.Nodup) (warning : Warning) :
    (record warnings warning).Nodup := by
  rw [record]
  split
  · exact distinct
  · rename_i fresh
    refine List.nodup_append.2 ⟨distinct, by simp, ?_⟩
    rintro earlier member _ (_ | ⟨_, ⟨⟩⟩) rfl
    exact fresh member

theorem mem_record {warnings : List Warning} {warning other : Warning} :
    other ∈ record warnings warning ↔ other ∈ warnings ∨ other = warning := by
  rw [record]
  split
  · rename_i member
    constructor
    · exact Or.inl
    · rintro (earlier | rfl)
      · exact earlier
      · exact member
  · simp

end Scope

end Stencil
