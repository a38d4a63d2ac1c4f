/-
This file reads dotted paths. A path names its non-empty segments between dots, so
dots in front, at the end or in a row say nothing, and the empty path and a path
of dots alone name no segment.
-/

import Stencil.Text.Basic

namespace Stencil

namespace Path

/-- The segments that a path names. -/
def segments (path : Text) : List Text :=
  (path.splitOn '.').filter (· ≠ [])

/-- A path that names the given segments. -/
def ofSegments (segments : List Text) : Text :=
  ['.'].intercalate segments

@[simp] theorem segments_nil : segments [] = [] := rfl

theorem ne_nil_of_mem_segments {path segment : Text} (member : segment ∈ segments path) :
    segment ≠ [] := by
  simpa using (List.mem_filter.1 member).2

/-! ### Names -/

/-- A segment of a path can be this: it is not empty and holds no dot. -/
def IsName (name : Text) : Prop :=
  name ≠ [] ∧ '.' ∉ name

instance (name : Text) : Decidable (IsName name) :=
  inferInstanceAs (Decidable (_ ∧ _))

theorem not_mem_of_mem_splitOn {path piece : Text} (member : piece ∈ path.splitOn '.') :
    '.' ∉ piece := by
  induction path generalizing piece with
  | nil =>
    rw [List.splitOn_nil, List.mem_singleton] at member
    exact member ▸ List.not_mem_nil
  | cons character rest inductionHypothesis =>
    rw [List.splitOn_cons_eq_if_modifyHead] at member
    split at member
    · rcases List.mem_cons.1 member with rfl | later
      · exact List.not_mem_nil
      · exact inductionHypothesis later
    · rename_i differ
      cases pieces : rest.splitOn '.' with
      | nil => exact absurd pieces (List.splitOn_ne_nil '.' rest)
      | cons first others =>
        rw [pieces] at member inductionHypothesis
        rcases List.mem_cons.1 member with rfl | later
        · rw [List.mem_cons, not_or]
          exact ⟨fun same => differ (beq_iff_eq.2 same.symm),
            inductionHypothesis List.mem_cons_self⟩
        · exact inductionHypothesis (List.mem_cons_of_mem first later)

theorem isName_of_mem_segments {path segment : Text} (member : segment ∈ segments path) :
    IsName segment :=
  ⟨ne_nil_of_mem_segments member, not_mem_of_mem_splitOn (List.mem_filter.1 member).1⟩

theorem IsName.segments_eq {name : Text} (isName : IsName name) : segments name = [name] := by
  rw [segments, List.splitOn_eq_singleton isName.2]
  exact List.filter_cons_of_pos (decide_eq_true isName.1)

/-! ### Joining and dividing again -/

/-- A dot divides a path into two. -/
theorem segments_append_dot (before after : Text) :
    segments (before ++ '.' :: after) = segments before ++ segments after := by
  rw [segments, List.splitOn_append_cons_self, List.filter_append]
  rfl

/-- A path of names, whatever they are, has the segments of each. -/
theorem segments_ofSegments (names : List Text) :
    segments (ofSegments names) = names.flatMap segments := by
  induction names with
  | nil => rfl
  | cons name others inductionHypothesis =>
    cases others with
    | nil => rw [ofSegments, List.intercalate_singleton, List.flatMap_singleton]
    | cons next later =>
      rw [ofSegments] at inductionHypothesis ⊢
      rw [List.intercalate_cons_cons, List.append_assoc, List.singleton_append,
        segments_append_dot, inductionHypothesis]
      rfl

/-- Segments stay as they are. -/
theorem flatMap_segments_of_isName {names : List Text} (each : ∀ name ∈ names, IsName name) :
    names.flatMap segments = names := by
  induction names with
  | nil => rfl
  | cons name others inductionHypothesis =>
    obtain ⟨isName, others⟩ := List.forall_mem_cons.1 each
    rw [List.flatMap_cons, inductionHypothesis others, isName.segments_eq]
    rfl

end Path

end Stencil
