/-
This file turns JSON documents into values and back. A value has no numbers,
booleans and nulls: the conversion leaves them out of arrays and objects and
fails only where the whole document is one. Written back, a value is a document
of strings, arrays and objects.
-/

import Stencil.Json.Basic
import Stencil.Value.Basic

namespace Stencil

/-- A context was refused because the whole document is a number, a boolean or null. -/
structure InvalidContext where
  found : Json.Kind
  deriving DecidableEq, Repr

/-- The text that reports a refused context. -/
def InvalidContext.message (error : InvalidContext) : String :=
  "invalid context: expected a string, array or object at the top level, found " ++
    error.found.name

namespace Value

mutual

/-- The value of a document, unless the whole document is a number, a boolean or null. -/
def ofJson? : Json → Option Value
  | .string content => some (.text content)
  | .array items => some (.list (ofItems items))
  | .object members => some (.record (ofMembers members))
  | .null => none
  | .boolean _ => none
  | .number _ => none

/-- The values of the items that have one. -/
def ofItems : List Json → List Value
  | [] => []
  | item :: rest =>
    match ofJson? item with
    | some value => value :: ofItems rest
    | none => ofItems rest

/-- The values of the members that have one, under their names. -/
def ofMembers : List (Text × Json) → List (Text × Value)
  | [] => []
  | (name, item) :: rest =>
    match ofJson? item with
    | some value => (name, value) :: ofMembers rest
    | none => ofMembers rest

end

/-- The value of a document that serves as a context. -/
def ofContext (document : Json) : Except InvalidContext Value :=
  match ofJson? document with
  | some value => .ok value
  | none => .error ⟨document.kind⟩

mutual

/-- The document that a value is written as. -/
def toJson : Value → Json
  | .text content => .string content
  | .list items => .array (toItems items)
  | .record fields => .object (toMembers fields)

/-- The documents of the items of a list. -/
def toItems : List Value → List Json
  | [] => []
  | item :: rest => toJson item :: toItems rest

/-- The documents of the fields of a record, under their names. -/
def toMembers : List (Text × Value) → List (Text × Json)
  | [] => []
  | (name, item) :: rest => (name, toJson item) :: toMembers rest

end

theorem ofItems_eq_filterMap (items : List Json) : ofItems items = items.filterMap ofJson? := by
  induction items with
  | nil => rfl
  | cons item rest inductionHypothesis =>
    rw [ofItems, List.filterMap_cons, inductionHypothesis]
    cases ofJson? item <;> rfl

theorem ofMembers_eq_filterMap (members : List (Text × Json)) :
    ofMembers members = members.filterMap fun member =>
      (ofJson? member.2).map fun value => (member.1, value) := by
  induction members with
  | nil => rfl
  | cons member rest inductionHypothesis =>
    obtain ⟨name, item⟩ := member
    rw [ofMembers, List.filterMap_cons, inductionHypothesis]
    cases ofJson? item <;> rfl

theorem toItems_eq_map (items : List Value) : toItems items = items.map toJson := by
  induction items with
  | nil => rfl
  | cons item rest inductionHypothesis => rw [toItems, List.map_cons, inductionHypothesis]

theorem toMembers_eq_map (fields : List (Text × Value)) :
    toMembers fields = fields.map fun field => (field.1, field.2.toJson) := by
  induction fields with
  | nil => rfl
  | cons field rest inductionHypothesis =>
    obtain ⟨name, item⟩ := field
    rw [toMembers, List.map_cons, inductionHypothesis]

/-- Exactly the numbers, the booleans and null have no value. -/
theorem ofJson?_eq_none_iff {document : Json} : ofJson? document = none ↔
    document.kind = .number ∨ document.kind = .boolean ∨ document.kind = .null := by
  cases document <;> simp [ofJson?, Json.kind]

end Value

end Stencil
