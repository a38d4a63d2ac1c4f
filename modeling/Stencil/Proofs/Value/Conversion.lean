/-
This file shows that a document and the value made of it are walked alike. The
conversion leaves out members, but under the name of a member that is left out nothing
is found either, because no name stands twice in an ordered document. So a walk through
the value arrives at the value of what the same walk through the document arrives at.
-/

import Stencil.Value.Document

namespace Stencil

namespace Value

/-- Under a name stands the value of the member of that name, if it has one. -/
theorem lookup_ofMembers {members : Fields Json} (ordered : members.Ordered) (name : Text) :
    (ofMembers members).lookup name = (members.lookup name).bind ofJson? := by
  induction members with
  | nil => rfl
  | cons member rest inductionHypothesis =>
    obtain ⟨head, item⟩ := member
    obtain ⟨above, restOrdered⟩ := Fields.ordered_cons.1 ordered
    have later := inductionHypothesis restOrdered
    by_cases same : name = head
    · subst same
      -- No later member has this name, so none takes the place of one that is left out.
      have absent : rest.lookup name = none := by
        refine Option.not_isSome_iff_eq_none.1 fun found => ?_
        exact List.lt_irrefl name (above name (Fields.mem_names_iff.2 found))
      rw [absent] at later
      rw [ofMembers, List.lookup_cons_self, Option.bind_some]
      cases ofJson? item with
      | none => exact later
      | some value => exact List.lookup_cons_self
    · have unequal : (name == head) = false := by simpa using same
      rw [ofMembers, List.lookup_cons, unequal]
      cases ofJson? item with
      | none => exact later
      | some value => rw [List.lookup_cons, unequal]; exact later

/-- The field of a converted document is the converted member. -/
theorem ofJson?_bind_field? {document : Json} (ordered : document.Ordered) (name : Text) :
    ((ofJson? document).bind fun value => value.field? name) =
      (document.members.lookup name).bind ofJson? := by
  cases ordered with
  | object ascending each =>
    rw [ofJson?, Option.bind_some]
    exact lookup_ofMembers ascending name
  | _ => simp [ofJson?, field?, fields?, Json.members]

/-- Converting and walking commute. -/
theorem ofJson?_bind_walk? {document : Json} (ordered : document.Ordered) (path : List Text) :
    ((ofJson? document).bind fun value => value.walk? path) =
      (document.walk? path).bind ofJson? := by
  induction path generalizing document with
  | nil => simp
  | cons segment rest inductionHypothesis =>
    simp only [walk?_cons, Json.walk?_cons]
    rw [← Option.bind_assoc, ofJson?_bind_field? ordered, Option.bind_assoc, Option.bind_assoc]
    refine Option.bind_congr fun member found => inductionHypothesis ?_
    exact ordered.members.2 _ (Fields.mem_of_lookup found)

/-- What a dotted path leads to in a converted document. -/
theorem ofJson?_bind_lookup {document : Json} (ordered : document.Ordered) (path : Text) :
    ((ofJson? document).bind fun value => value.lookup path) =
      (document.walk? (Path.segments path)).bind ofJson? :=
  ofJson?_bind_walk? ordered (Path.segments path)

end Value

end Stencil
