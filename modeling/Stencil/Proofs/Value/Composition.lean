/-
This file says that looking up follows the names in a path and nothing else of it. A path
spells names with dots between them; dots in front, at the end and in a row are idle. What a
path leads to is what its names lead to one after the other, so a path made of two with a dot
between them leads on from where the first one leads. And only the names matter: two paths
that spell different names are told apart by records nested along the names of one of them.
-/

import Stencil.Value.Basic

namespace Stencil

namespace Path

/-! ### How paths spell names -/

/-- A path spells names, each ended by a dot or by the end of the path, with any dots between. -/
inductive Spells : List Text → Text → Prop where
  | nothing : Spells [] []
  | dot {names : List Text} {path : Text} (rest : Spells names path) : Spells names ('.' :: path)
  | last {name : Text} (isName : IsName name) : Spells [name] name
  | name {name path : Text} {names : List Text} (isName : IsName name)
      (rest : Spells names path) : Spells (name :: names) (name ++ '.' :: path)

/-- The names that a path spells are its segments. -/
theorem Spells.segments_eq {names : List Text} {path : Text} (spells : Spells names path) :
    segments path = names := by
  induction spells with
  | nothing => rfl
  | dot _ inductionHypothesis => exact (segments_append_dot [] _).trans inductionHypothesis
  | last isName => exact isName.segments_eq
  | name isName _ inductionHypothesis =>
    rw [segments_append_dot, isName.segments_eq, inductionHypothesis, List.singleton_append]

/-- Pieces without dots that are joined spell those that are not empty. -/
theorem spells_ofSegments {pieces : List Text} (dotless : ∀ piece ∈ pieces, '.' ∉ piece) :
    Spells (pieces.filter (· ≠ [])) (ofSegments pieces) := by
  induction pieces with
  | nil => exact .nothing
  | cons piece others inductionHypothesis =>
    obtain ⟨single, othersDotless⟩ := List.forall_mem_cons.1 dotless
    cases others with
    | nil =>
      by_cases empty : piece = []
      · subst empty
        exact .nothing
      · rw [List.filter_cons_of_pos (by simpa using empty), ofSegments,
          List.intercalate_singleton]
        exact .last ⟨empty, single⟩
    | cons next later =>
      have rest := inductionHypothesis othersDotless
      rw [ofSegments, List.intercalate_cons_cons, List.append_assoc, List.singleton_append]
      by_cases empty : piece = []
      · subst empty
        exact .dot rest
      · rw [List.filter_cons_of_pos (by simpa using empty)]
        exact .name ⟨empty, single⟩ rest

/-- Every path spells names. -/
theorem spells_segments (path : Text) : Spells (segments path) path := by
  have dotless : ∀ piece ∈ path.splitOn '.', '.' ∉ piece := fun _ => not_mem_of_mem_splitOn
  have spells := spells_ofSegments dotless
  rwa [ofSegments, List.intercalate_splitOn] at spells

end Path

namespace Value

/-! ### Walks -/

/-- A walk takes one field after the other and stops at the first one that is missing. -/
theorem walk?_eq_foldlM (root : Value) (names : List Text) :
    root.walk? names = names.foldlM field? root := by
  induction names generalizing root with
  | nil => rfl
  | cons name rest inductionHypothesis =>
    rw [walk?_cons, List.foldlM_cons]
    exact congrArg _ (funext inductionHypothesis)

/-- Records nested along names, with an empty text in the innermost. -/
def nested : List Text → Value
  | [] => .text []
  | name :: rest => .record [(name, nested rest)]

/-- The text in nested records is reached by their names only. -/
theorem walk?_nested_eq_text_iff {names path : List Text} :
    (nested names).walk? path = some (.text []) ↔ path = names := by
  induction names generalizing path with
  | nil => cases path <;> simp [nested, field?, fields?]
  | cons name rest inductionHypothesis =>
    cases path with
    | nil => simp [nested]
    | cons segment tail =>
      rw [nested, walk?_record_cons, List.cons.injEq, ← inductionHypothesis]
      by_cases same : segment = name
      · simp [same]
      · have missing : [(name, nested rest)].lookup segment = none := by
          rw [List.lookup_cons, beq_false_of_ne same]
          rfl
        simp [missing, same]

/-- Names that lead to the same from every root are the same names. -/
theorem eq_of_walk?_eq {names others : List Text}
    (same : ∀ root : Value, root.walk? names = root.walk? others) : names = others := by
  have reached : (nested names).walk? names = some (.text []) := walk?_nested_eq_text_iff.2 rfl
  rw [same] at reached
  exact (walk?_nested_eq_text_iff.1 reached).symm

end Value

/-- Looking up composes along paths. A path that spells names leads from a root to what the
names lead to one after the other, or nowhere as soon as one of them is missing. Two paths with
a dot between them lead to what the second leads to from where the first leads. And two paths
lead to the same from every root exactly when they spell the same names. -/
theorem lookup_composes (first second : Text) :
    (∀ names, Path.Spells names first →
        ∀ root : Value, root.lookup first = names.foldlM Value.field? root) ∧
      (∀ root : Value, root.lookup (first ++ '.' :: second) =
        (root.lookup first).bind fun middle => middle.lookup second) ∧
      ((∀ root : Value, root.lookup first = root.lookup second) ↔
        ∃ names, Path.Spells names first ∧ Path.Spells names second) := by
  refine ⟨?_, ?_, ?_⟩
  · intro names spells root
    rw [Value.lookup, spells.segments_eq, Value.walk?_eq_foldlM]
  · intro root
    rw [Value.lookup, Path.segments_append_dot, Value.walk?_append]
    rfl
  · constructor
    · intro same
      have segments := Value.eq_of_walk?_eq same
      exact ⟨_, Path.spells_segments first, segments ▸ Path.spells_segments second⟩
    · rintro ⟨names, spells, spells'⟩ root
      rw [Value.lookup, Value.lookup, spells.segments_eq, spells'.segments_eq]

/-- Idle dots change nothing, and another name does. -/
theorem lookup_composes_idle_dots :
    let root : Value := .record [(['a'], .record [(['b'], .text ['x'])])]
    root.lookup ("..a".toList ++ '.' :: "b.".toList) = some (.text ['x']) ∧
      (∀ other : Value, other.lookup "..a".toList = other.lookup "a.".toList) ∧
      ¬ ∀ other : Value, other.lookup "..a".toList = other.lookup "b".toList := by
  intro root
  have spelled : Path.Spells [['a']] "..a".toList := .dot (.dot (.last (by decide)))
  obtain ⟨walks, composes, -⟩ := lookup_composes "..a".toList "b.".toList
  refine ⟨?_, ?_, ?_⟩
  · rw [composes, walks _ spelled]
    decide
  · exact (lookup_composes _ _).2.2.2 ⟨_, spelled, .name (by decide) .nothing⟩
  · intro same
    obtain ⟨names, first, second⟩ := (lookup_composes _ _).2.2.1 same
    have equal := first.segments_eq.trans second.segments_eq.symm
    revert equal
    decide

end Stencil
