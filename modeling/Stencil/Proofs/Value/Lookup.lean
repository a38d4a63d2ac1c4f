/-
This file says what a path leads to in a value, in terms of the document that the value was
made of. A document leads along segments to a part of it when each segment is the name of a
member of an object, and a path leads in the value to what that part is converted to, so
only a part that is itself a number, a boolean or null is missed. What else is left out of
the document cannot be seen along the path.
-/

import Stencil.Proofs.Value.Conversion
import Stencil.Proofs.Value.RoundTrip

namespace Stencil

namespace Json

/-- A document leads along segments to a part of it: each segment names a member of an object. -/
inductive LeadsTo : Json → List Text → Json → Prop where
  | here (document : Json) : LeadsTo document [] document
  | through {members : List (Text × Json)} {segment : Text} {member part : Json}
      {rest : List Text} (inside : (segment, member) ∈ members)
      (onward : LeadsTo member rest part) : LeadsTo (.object members) (segment :: rest) part

/-- A walk arrives where the document leads to. -/
theorem walk?_eq_some_iff {document part : Json} (ordered : document.Ordered)
    {segments : List Text} :
    document.walk? segments = some part ↔ document.LeadsTo segments part := by
  induction segments generalizing document with
  | nil =>
    rw [walk?_nil, Option.some_inj]
    constructor
    · rintro rfl
      exact .here document
    · rintro ⟨⟩
      rfl
  | cons segment rest inductionHypothesis =>
    rw [walk?_cons, Option.bind_eq_some_iff]
    obtain ⟨ascending, each⟩ := ordered.members
    constructor
    · rintro ⟨member, found, walked⟩
      have inside := ascending.lookup_eq_some_iff.1 found
      have onward := (inductionHypothesis (each _ inside)).1 walked
      cases document with
      | object members => exact .through inside onward
      | _ => exact absurd inside List.not_mem_nil
    · rintro (_ | ⟨inside, onward⟩)
      exact ⟨_, ascending.lookup_eq_some_iff.2 inside,
        (inductionHypothesis (each _ inside)).2 onward⟩

end Json

/-- What a path leads to in a value that was made of a document. It is what the part of the
document is converted to that the segments of the path lead to, each through the member of its
name. Nothing is found exactly when the document leads to no part, or only to a number, a
boolean or null. Whatever numbers, booleans and nulls inside the document are dropped, every path
still leads in the value to what the rest of the document has there. -/
theorem lookup_of_document {document : Json} (ordered : document.Ordered) {root : Value}
    (converted : Value.ofJson? document = some root) (path : Text) :
    root.lookup path = (document.walk? (Path.segments path)).bind Value.ofJson? ∧
    (∀ found, root.lookup path = some found ↔
      ∃ part, document.LeadsTo (Path.segments path) part ∧ Value.ofJson? part = some found) ∧
    (root.lookup path = none ↔ ∀ part, document.LeadsTo (Path.segments path) part →
      part.kind = .number ∨ part.kind = .boolean ∨ part.kind = .null) ∧
    ∀ other, Relation.ReflTransGen Json.Drops document other →
      root.lookup path = (other.walk? (Path.segments path)).bind Value.ofJson? := by
  have commutes (other : Json) (otherOrdered : other.Ordered)
      (same : Value.ofJson? other = some root) :
      root.lookup path = (other.walk? (Path.segments path)).bind Value.ofJson? := by
    rw [← Value.ofJson?_bind_lookup otherOrdered, same, Option.bind_some]
  have looked := commutes document ordered converted
  refine ⟨looked, fun found => ?_, ?_, fun other dropping => ?_⟩
  · rw [looked, Option.bind_eq_some_iff]
    simp only [Json.walk?_eq_some_iff ordered]
  · rw [looked, Option.bind_eq_none_iff]
    simp only [Json.walk?_eq_some_iff ordered, Value.ofJson?_eq_none_iff]
  · exact commutes other (ordered.of_dropping dropping)
      ((Value.ofJson?_eq_of_dropping dropping).symm.trans converted)

/-- A number beside a list hides nothing of the list, and is itself not found. -/
theorem lookup_of_document_beside_number :
    let inner : Json := .object [("b".toList, .number "1".toList),
      ("c".toList, .array [.null, .string "x".toList])]
    let document : Json := .object [("a".toList, inner), ("n".toList, .null)]
    let root : Value :=
      .record [("a".toList, .record [("c".toList, .list [.text "x".toList])])]
    document.Ordered ∧ Value.ofJson? document = some root ∧
      root.lookup ".a..c".toList = some (.list [.text "x".toList]) ∧
      root.lookup "a.b".toList = none := by
  intro inner document root
  have innerOrdered : inner.Ordered := by
    refine .object (by decide) (List.forall_mem_cons.2 ⟨.number _, ?_⟩)
    exact List.forall_mem_singleton.2 (.array (List.forall_mem_cons.2
      ⟨.null, List.forall_mem_singleton.2 (.string _)⟩))
  have ordered : document.Ordered := .object (by decide)
    (List.forall_mem_cons.2 ⟨innerOrdered, List.forall_mem_singleton.2 .null⟩)
  have converted : Value.ofJson? document = some root := rfl
  refine ⟨ordered, converted, ?_, ?_⟩
  · exact (lookup_of_document ordered converted ".a..c".toList).1.trans (by decide +kernel)
  · exact (lookup_of_document ordered converted "a.b".toList).1.trans (by decide +kernel)

end Stencil
