/-
This file says which paths stay inside the directory they are looked up in, and where
they lead. Whether a path stays inside is decided by its components, for which slashes
in a row, idle points and a slash at the end vanish; by its spelling, such a path is not
empty, begins with no slash and has no part of two points. Put behind a directory, its
other parts are passed one after the other, and the way never leads out of the
directory again.
-/

import Stencil.Source.FilePath

namespace Stencil

namespace FilePath

/-! ### Components and parts -/

theorem Component.staysInside_iff {component : Component} :
    component.staysInside ↔ component ≠ .top ∧ component ≠ .up := by
  cases component <;> simp [staysInside]

theorem step?_ne_top (part : Text) : step? part ≠ some .top := by
  rw [step?]
  split
  · simp
  · split <;> simp

theorem step?_eq_some_up_iff {part : Text} : step? part = some .up ↔ part = up := by
  rw [step?]
  split
  · rename_i idle
    have differ : part ≠ up := by
      rintro rfl
      exact absurd idle (by decide)
    simp [differ]
  · split
    · simp [*]
    · simp [*]

theorem top_mem_components_iff {path : Text} : .top ∈ components path ↔ isAbsolute path := by
  have below : .top ∉ (parts path).filterMap step? := by
    intro member
    obtain ⟨part, -, stepped⟩ := List.mem_filterMap.1 member
    exact step?_ne_top part stepped
  rw [components]
  split
  · simp [*]
  · split <;> simp [*]

theorem up_mem_components_iff {path : Text} : .up ∈ components path ↔ up ∈ parts path := by
  have steps : .up ∈ (parts path).filterMap step? ↔ up ∈ parts path := by
    simp only [List.mem_filterMap, step?_eq_some_up_iff, exists_eq_right]
  rw [components]
  split
  · simp [steps]
  · split <;> simp [steps]

/-- A path stays inside exactly when it is not empty, begins with no slash and has no part of two
points. -/
theorem staysInside_iff {path : Text} :
    staysInside path ↔ path ≠ [] ∧ path.head? ≠ some '/' ∧ up ∉ parts path := by
  have absolute : path.head? ≠ some '/' ↔ .top ∉ components path := by
    rw [top_mem_components_iff, isAbsolute, decide_eq_true_eq]
  rw [absolute, ← up_mem_components_iff, staysInside]
  simp only [Bool.and_eq_true, decide_eq_true_eq, List.all_eq_true, Component.staysInside_iff]
  constructor
  · rintro ⟨nonempty, inside⟩
    exact ⟨nonempty, fun member => (inside _ member).1 rfl, fun member => (inside _ member).2 rfl⟩
  · rintro ⟨nonempty, noTop, noUp⟩
    refine ⟨nonempty, fun component member => ⟨?_, ?_⟩⟩
    · rintro rfl
      exact noTop member
    · rintro rfl
      exact noUp member

/-! ### Below a directory -/

/-- The parts of a path that lead somewhere. -/
def names (path : Text) : List Text :=
  (parts path).filter fun part => !isIdle part

theorem parts_append_slash (directory path : Text) :
    parts (directory ++ '/' :: path) = parts directory ++ parts path :=
  List.splitOn_append_cons_self directory path

theorem normalizeStep_of_idle {part : Text} (idle : isIdle part) (absolute : Bool)
    (passed : List Text) : normalizeStep absolute passed part = passed := by
  rw [normalizeStep, if_pos idle]

theorem isAbsolute_join {directory path : Text} (relative : path.head? ≠ some '/') :
    isAbsolute (join directory path) = isAbsolute directory := by
  cases directory with
  | nil => simpa [join, isAbsolute] using relative
  | cons character rest =>
    rw [join]
    split <;> rfl

/-- A path below a directory is resolved from where the directory leads. -/
theorem normalize_join {directory path : Text} (relative : path.head? ≠ some '/') :
    normalize (join directory path) =
      (parts path).foldl (normalizeStep (isAbsolute directory)) (normalize directory) := by
  rw [normalize, isAbsolute_join relative, join]
  split
  · rename_i separated
    rcases separated with rfl | slash
    · rfl
    · -- The part behind the slash that ends the directory is empty.
      obtain ⟨front, rfl⟩ := List.getLast?_eq_some_iff.1 slash
      have ending : parts (front ++ ['/']) = parts front ++ [[]] := parts_append_slash front []
      rw [List.append_assoc, List.singleton_append, parts_append_slash, List.foldl_append,
        normalize, ending, List.foldl_append, List.foldl_cons, List.foldl_nil,
        normalizeStep_of_idle rfl]
  · rw [parts_append_slash, List.foldl_append]
    rfl

/-- Parts that never go up are passed one after the other, but for those that stay where they
are. -/
theorem foldl_normalizeStep (absolute : Bool) (passed : List Text) {row : List Text}
    (noUp : up ∉ row) : row.foldl (normalizeStep absolute) passed =
      passed ++ row.filter fun part => !isIdle part := by
  induction row generalizing passed with
  | nil => exact (List.append_nil passed).symm
  | cons part rest inductionHypothesis =>
    obtain ⟨notUp, restNoUp⟩ := List.ne_and_not_mem_of_not_mem_cons noUp
    rw [List.foldl_cons, inductionHypothesis _ restNoUp]
    by_cases idle : isIdle part
    · rw [normalizeStep_of_idle idle, List.filter_cons_of_neg (by simpa using idle)]
    · rw [normalizeStep, if_neg idle, if_pos notUp.symm,
        List.filter_cons_of_pos (by simpa using idle), List.append_assoc, List.singleton_append]

/-- A path that stays inside leads below the directory, along its names. -/
theorem normalize_join_of_staysInside {path : Text} (inside : staysInside path)
    (directory : Text) : normalize (join directory path) = normalize directory ++ names path := by
  obtain ⟨-, relative, noUp⟩ := staysInside_iff.1 inside
  rw [normalize_join relative, foldl_normalizeStep _ _ noUp, names]

/-- Wherever the way along such a path is cut short, it has not left the directory. -/
theorem normalize_prefix_of_staysInside {path : Text} (inside : staysInside path)
    (directory : Text) {passed : List Text} (front : passed <+: parts path) :
    normalize directory <+:
      passed.foldl (normalizeStep (isAbsolute directory)) (normalize directory) := by
  obtain ⟨-, -, noUp⟩ := staysInside_iff.1 inside
  rw [foldl_normalizeStep _ _ fun member => noUp (front.subset member)]
  exact List.prefix_append _ _

end FilePath

end Stencil
