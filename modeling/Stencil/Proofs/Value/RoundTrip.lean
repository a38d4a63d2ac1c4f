/-
This file shows what the way from a document to a value and back loses. A value that is
written as a document and converted again is the same value. A document that is converted
and written again is the document without the numbers, booleans and nulls inside it, and
with nothing else changed; converting that gives the same value as before.
-/

import Stencil.Proofs.Json.Dropping
import Stencil.Value.Document

namespace Stencil

namespace Value

/-! ### From a value and back -/

/-- A value is what its document is converted to. -/
theorem ofJson?_toJson (value : Value) : ofJson? value.toJson = some value := by
  induction value using inductionOn with
  | text content => rfl
  | list items each =>
    have same : ofItems (toItems items) = items := by
      rw [ofItems_eq_filterMap, toItems_eq_map, List.filterMap_map,
        List.filterMap_congr (show ∀ item ∈ items, (ofJson? ∘ toJson) item = some item from each),
        List.filterMap_some]
    rw [toJson, ofJson?, same]
  | record fields each =>
    have same : ofMembers (toMembers fields) = fields := by
      rw [ofMembers_eq_filterMap, toMembers_eq_map, List.filterMap_map]
      refine (List.filterMap_congr fun field member => ?_).trans List.filterMap_some
      show (ofJson? field.2.toJson).map _ = some field
      rw [each field member, Option.map_some]
    rw [toJson, ofJson?, same]

/-! ### From a document and back -/

/-- The document of a converted document is what pruning keeps of it. -/
theorem map_toJson_ofJson? (document : Json) :
    (ofJson? document).map toJson = document.kept? := by
  induction document using Json.inductionOn with
  | array items each =>
    have same : toItems (ofItems items) = Json.pruneItems items := by
      rw [toItems_eq_map, ofItems_eq_filterMap, List.map_filterMap, Json.pruneItems_eq_filterMap]
      exact List.filterMap_congr each
    rw [ofJson?, Option.map_some, toJson, same]
    rfl
  | object members each =>
    have same : toMembers (ofMembers members) = Json.pruneMembers members := by
      rw [toMembers_eq_map, ofMembers_eq_filterMap, List.map_filterMap,
        Json.pruneMembers_eq_filterMap]
      refine List.filterMap_congr fun member inside => ?_
      rw [← each member inside, Option.map_map, Option.map_map]
      rfl
    rw [ofJson?, Option.map_some, toJson, same]
    rfl
  | string content => rfl
  | null => rfl
  | boolean value => rfl
  | number literal => rfl

/-- A conversion sees of a document only what pruning keeps of it. -/
theorem ofJson?_eq_bind_kept? (document : Json) :
    ofJson? document = document.kept?.bind ofJson? := by
  rw [← map_toJson_ofJson?, Option.bind_map]
  cases ofJson? document with
  | none => rfl
  | some value => exact (ofJson?_toJson value).symm

/-- What is dropped makes no difference to the value. -/
theorem ofJson?_eq_of_dropping {document other : Json}
    (dropping : Relation.ReflTransGen Json.Drops document other) :
    ofJson? document = ofJson? other := by
  rw [ofJson?_eq_bind_kept? document, ofJson?_eq_bind_kept? other,
    Json.kept?_eq_of_dropping dropping]

/-! ### Order -/

theorem names_toMembers (fields : List (Text × Value)) :
    Fields.names (toMembers fields) = Fields.names fields := by
  rw [toMembers_eq_map, Fields.names, List.map_map]
  rfl

/-- A value is ordered exactly when its document is. -/
theorem ordered_toJson_iff {value : Value} : value.toJson.Ordered ↔ value.Ordered := by
  induction value using inductionOn with
  | text content => exact iff_of_true (.string content) (.text content)
  | list items each =>
    rw [toJson, toItems_eq_map]
    constructor
    · rintro (_ | _ | _ | _ | written | _)
      exact .list fun item member =>
        (each item member).1 (written item.toJson (List.mem_map_of_mem member))
    · rintro (_ | held | _)
      exact .array (List.forall_mem_map.2 fun item member =>
        (each item member).2 (held item member))
  | record fields each =>
    rw [toJson]
    constructor
    · rintro (_ | _ | _ | _ | _ | ⟨ascending, written⟩)
      rw [Fields.Ordered, names_toMembers] at ascending
      rw [toMembers_eq_map] at written
      exact .record ascending fun field member =>
        (each field member).1 (written _ (List.mem_map_of_mem member))
    · rintro (_ | _ | ⟨ascending, held⟩)
      refine .object (by rwa [Fields.Ordered, names_toMembers]) ?_
      rw [toMembers_eq_map]
      exact List.forall_mem_map.2 fun field member => (each field member).2 (held field member)

end Value

/-- What the way from a document to a value and back loses. Every value is what its document is
converted to, and one is ordered when the other is. A document that is converted and written
again is the document pruned: the one document without numbers, booleans and nulls that
dropping some of them leads to, so items keep their order, members their names, and nothing
else changes. Converting it again gives the same value. -/
theorem conversion_round_trip :
    (∀ value : Value, Value.ofJson? value.toJson = some value ∧
      (value.toJson.Ordered ↔ value.Ordered)) ∧
    ∀ (document : Json) (value : Value), Value.ofJson? document = some value →
      value.toJson = document.prune ∧
      (∀ other : Json, Relation.ReflTransGen Json.Drops document other ∧ other.Clean ↔
        other = value.toJson) ∧
      (document.Ordered → value.toJson.Ordered) ∧
      Value.ofJson? value.toJson = some value := by
  refine ⟨fun value => ⟨value.ofJson?_toJson, Value.ordered_toJson_iff⟩, ?_⟩
  intro document value converted
  have left : document.kept? = some value.toJson := by
    rw [← Value.map_toJson_ofJson?, converted, Option.map_some]
  obtain ⟨-, pruned⟩ := Json.kept?_eq_some_iff.1 left
  refine ⟨pruned.symm, fun other => Json.dropping_clean_iff left, ?_, value.ofJson?_toJson⟩
  intro ordered
  exact ordered.of_dropping (pruned ▸ document.dropping_prune)

/-- A number, a boolean and a null are left out at three depths; an empty array and an empty object
stay. -/
theorem conversion_round_trip_nested :
    let document : Json := .object [("a".toList, .array [.number "1".toList, .string "x".toList,
      .object [("n".toList, .null), ("s".toList, .string "y".toList)], .array [.boolean true]]),
      ("b".toList, .boolean false), ("c".toList, .object [("d".toList, .number "2".toList)])]
    let value : Value := .record [("a".toList, .list [.text "x".toList,
      .record [("s".toList, .text "y".toList)], .list []]), ("c".toList, .record [])]
    Value.ofJson? document = some value ∧ value.toJson = document.prune ∧
      (∀ other : Json, Relation.ReflTransGen Json.Drops document other ∧ other.Clean ↔
        other = value.toJson) ∧
      Value.ofJson? value.toJson = some value := by
  intro document value
  have converted : Value.ofJson? document = some value := rfl
  obtain ⟨pruned, unique, -, again⟩ := conversion_round_trip.2 document value converted
  exact ⟨converted, pruned, unique, again⟩

end Stencil
