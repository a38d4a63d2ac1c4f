/-
This file removes from a document everything that templates have no use for: the
numbers, booleans and nulls in its arrays and objects, at every depth. What is
left keeps its order and its names.
-/

import Stencil.Json.Basic

namespace Stencil

namespace Json

/-- Whether a document is a string, an array or an object. -/
def isUsable : Json → Bool
  | .string _ => true
  | .array _ => true
  | .object _ => true
  | .null => false
  | .boolean _ => false
  | .number _ => false

mutual

/-- The document without the numbers, booleans and nulls inside it. -/
def prune : Json → Json
  | .array items => .array (pruneItems items)
  | .object members => .object (pruneMembers members)
  | .string content => .string content
  | .null => .null
  | .boolean value => .boolean value
  | .number literal => .number literal

/-- The usable items, each of them pruned. -/
def pruneItems : List Json → List Json
  | [] => []
  | item :: rest => if item.isUsable then prune item :: pruneItems rest else pruneItems rest

/-- The usable members under their names, each of them pruned. -/
def pruneMembers : List (Text × Json) → List (Text × Json)
  | [] => []
  | (name, item) :: rest =>
    if item.isUsable then (name, prune item) :: pruneMembers rest else pruneMembers rest

end

/-- What pruning leaves of a document in an array or an object. -/
def kept? (item : Json) : Option Json :=
  if item.isUsable then some item.prune else none

theorem pruneItems_eq_filterMap (items : List Json) : pruneItems items = items.filterMap kept? := by
  induction items with
  | nil => rfl
  | cons item rest inductionHypothesis =>
    rw [pruneItems, List.filterMap_cons, kept?, inductionHypothesis]
    split <;> rfl

theorem pruneMembers_eq_filterMap (members : List (Text × Json)) :
    pruneMembers members = members.filterMap fun member =>
      member.2.kept?.map fun item => (member.1, item) := by
  induction members with
  | nil => rfl
  | cons member rest inductionHypothesis =>
    obtain ⟨name, item⟩ := member
    rw [pruneMembers, List.filterMap_cons, kept?, inductionHypothesis]
    split <;> rfl

/-- Pruning leaves a document of the same shape. -/
@[simp] theorem kind_prune (document : Json) : document.prune.kind = document.kind := by
  cases document <;> rfl

end Json

end Stencil
