/-
This file says what writing one text into a document does. The text can be read where
it was written, and what lies apart of its path is as it was; two paths lie apart when
neither leads through the end of the other. So texts that are written at paths apart
from each other do not meet, and the order in which they are written cannot be seen.
-/

import Stencil.Command.Assignment

namespace Stencil

namespace Path

/-! ### Paths apart -/

/-- Two rows of segments lie apart: neither is the front of the other, nor are they the same. -/
def Apart (first second : List Text) : Prop :=
  ¬ first <+: second ∧ ¬ second <+: first

instance (first second : List Text) : Decidable (Apart first second) :=
  inferInstanceAs (Decidable (_ ∧ _))

variable {first second : List Text}

theorem Apart.symm (apart : Apart first second) : Apart second first :=
  ⟨apart.2, apart.1⟩

/-- Paths apart name segments. -/
theorem Apart.ne_nil (apart : Apart first second) : first ≠ [] := by
  rintro rfl
  exact apart.1 List.nil_prefix

theorem apart_cons_cons {segment other : Text} :
    Apart (segment :: first) (other :: second) ↔ segment ≠ other ∨ Apart first second := by
  by_cases same : segment = other
  · subst same
    simp [Apart, List.cons_prefix_cons]
  · simp [Apart, List.cons_prefix_cons, same, Ne.symm same]

end Path

namespace Json

/-! ### What is read after a writing -/

/-- The member that a writing goes on in: an empty object where there is none. -/
theorem assign_cons (document : Json) (value segment : Text) (rest : List Text) :
    document.assign value (segment :: rest) = .object (document.members.put segment
      (((document.members.lookup segment).getD (.object [])).assign value rest)) :=
  rfl

/-- A text that is written at a path with segments stands in an object. -/
theorem assign_eq_object (document : Json) (value : Text) {path : List Text} (named : path ≠ []) :
    ∃ members, document.assign value path = .object members := by
  obtain ⟨segment, rest, rfl⟩ := List.exists_cons_of_ne_nil named
  exact ⟨_, rfl⟩

/-- Nothing is read through an empty object. -/
theorem walk?_getD_empty (member : Option Json) {path : List Text} (named : path ≠ []) :
    (member.getD (.object [])).walk? path = member.bind (·.walk? path) := by
  obtain ⟨segment, rest, rfl⟩ := List.exists_cons_of_ne_nil named
  cases member with
  | none => simp [members]
  | some document => rfl

/-- What was written is read. -/
@[simp] theorem walk?_assign_self (document : Json) (value : Text) (path : List Text) :
    (document.assign value path).walk? path = some (.string value) := by
  induction path generalizing document with
  | nil => rfl
  | cons segment rest inductionHypothesis =>
    rw [assign_cons, walk?_cons, members, Fields.lookup_put_self, Option.bind_some,
      inductionHypothesis]

/-- What lies apart is read as before. -/
theorem walk?_assign_of_apart (document : Json) (value : Text) {path other : List Text}
    (apart : Path.Apart path other) :
    (document.assign value path).walk? other = document.walk? other := by
  induction path generalizing document other with
  | nil => exact absurd rfl apart.ne_nil
  | cons segment rest inductionHypothesis =>
    obtain ⟨name, tail, rfl⟩ := List.exists_cons_of_ne_nil apart.symm.ne_nil
    rw [assign_cons, walk?_cons, walk?_cons, members]
    by_cases same : name = segment
    · subst same
      have tailApart := (Path.apart_cons_cons.1 apart).resolve_left (not_not_intro rfl)
      rw [Fields.lookup_put_self, Option.bind_some, inductionHypothesis _ tailApart,
        walk?_getD_empty _ tailApart.symm.ne_nil]
    · rw [Fields.lookup_put_of_ne same]

/-! ### Two writings -/

/-- Texts at paths apart are written in either order. -/
theorem assign_comm (document : Json) (value written : Text) {path other : List Text}
    (apart : Path.Apart path other) :
    (document.assign value path).assign written other =
      (document.assign written other).assign value path := by
  induction path generalizing document other with
  | nil => exact absurd rfl apart.ne_nil
  | cons segment rest inductionHypothesis =>
    obtain ⟨name, tail, rfl⟩ := List.exists_cons_of_ne_nil apart.symm.ne_nil
    simp only [assign_cons, members]
    by_cases same : name = segment
    · subst same
      have tailApart := (Path.apart_cons_cons.1 apart).resolve_left (not_not_intro rfl)
      simp only [Fields.lookup_put_self, Fields.put_put_self, Option.getD_some,
        inductionHypothesis _ tailApart]
    · simp only [Fields.lookup_put_of_ne same, Fields.lookup_put_of_ne (Ne.symm same)]
      rw [Fields.put_comm (Ne.symm same)]

/-! ### Order -/

/-- The member that a writing goes on in is ordered. -/
theorem Ordered.member {document : Json} (ordered : document.Ordered) (segment : Text) :
    ((document.members.lookup segment).getD (.object [])).Ordered := by
  cases found : document.members.lookup segment with
  | none => exact .object Fields.ordered_nil fun _ inside => absurd inside List.not_mem_nil
  | some held => exact ordered.members.2 _ (Fields.mem_of_lookup found)

/-- Writing keeps a document ordered. -/
theorem Ordered.assign {document : Json} (ordered : document.Ordered) (value : Text)
    (path : List Text) : (document.assign value path).Ordered := by
  induction path generalizing document with
  | nil => exact .string value
  | cons segment rest inductionHypothesis =>
    obtain ⟨ascending, each⟩ := ordered.members
    refine .object (ascending.put segment _) fun member inside => ?_
    rcases Fields.mem_put inside with rfl | earlier
    · exact inductionHypothesis (ordered.member segment)
    · exact each member earlier

end Json

end Stencil
