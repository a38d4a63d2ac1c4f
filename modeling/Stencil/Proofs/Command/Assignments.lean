/-
This file says what the assignments of a command line make of the document of a file.
Each is made in what the earlier ones left, and may put an object in place of what stands
in its way; only paths that lie apart are safe from each other. So a text that is assigned
is found under its path unless a later assignment meets it, and what no assignment meets
is found as in the file. All this holds of the document and, because the document of a
file is ordered, also of the value that a template is filled with.
-/

import Stencil.Command.Context
import Stencil.Proofs.Command.Assign
import Stencil.Proofs.Json.Printing
import Stencil.Proofs.Json.Reading
import Stencil.Proofs.Value.Conversion

namespace Stencil

namespace Assignment

/-- Some text spells the assignment. -/
def Spelled (assignment : Assignment) : Prop :=
  ∃ source, read source = .ok assignment

/-- Two assignments lie apart when their paths do. -/
def Apart (first second : Assignment) : Prop :=
  Path.Apart (Path.segments first.path) (Path.segments second.path)

instance (first second : Assignment) : Decidable (Apart first second) :=
  inferInstanceAs (Decidable (Path.Apart _ _))

/-- An assignment that is spelled has a path with segments. -/
theorem Spelled.segments_ne_nil {assignment : Assignment} (spelled : assignment.Spelled) :
    Path.segments assignment.path ≠ [] := by
  obtain ⟨source, taken⟩ := spelled
  rw [read] at taken
  split at taken
  · contradiction
  · split at taken
    · contradiction
    · rename_i named
      obtain rfl := Except.ok.inj taken
      exact named

end Assignment

namespace Json

variable {document : Json} {assignments : List Assignment}

/-! ### One assignment after the other -/

theorem applyAll_append (document : Json) (earlier later : List Assignment) :
    document.applyAll (earlier ++ later) = (document.applyAll earlier).applyAll later :=
  List.foldl_append

theorem Ordered.applyAll (ordered : document.Ordered) (assignments : List Assignment) :
    (document.applyAll assignments).Ordered := by
  induction assignments generalizing document with
  | nil => exact ordered
  | cons assignment later inductionHypothesis => exact inductionHypothesis (ordered.assign _ _)

/-- What lies apart of every assignment is as it was. -/
theorem walk?_applyAll_of_apart {path : List Text}
    (apart : ∀ assignment ∈ assignments, Path.Apart (Path.segments assignment.path) path) :
    (document.applyAll assignments).walk? path = document.walk? path := by
  induction assignments generalizing document with
  | nil => rfl
  | cons assignment later inductionHypothesis =>
    obtain ⟨headApart, laterApart⟩ := List.forall_mem_cons.1 apart
    exact (inductionHypothesis laterApart).trans (walk?_assign_of_apart _ _ headApart)

/-- A text is found where it was assigned, if every later assignment lies apart. -/
theorem walk?_applyAll_self (document : Json) (earlier : List Assignment)
    {assignment : Assignment} {later : List Assignment}
    (apart : ∀ other ∈ later, other.Apart assignment) :
    (document.applyAll (earlier ++ assignment :: later)).walk? (Path.segments assignment.path) =
      some (.string assignment.value) := by
  rw [applyAll_append]
  exact (walk?_applyAll_of_apart apart).trans (walk?_assign_self _ _ _)

/-- Assignments that lie apart can be swapped. -/
theorem applyAll_swap (document : Json) (earlier : List Assignment) {first second : Assignment}
    (later : List Assignment) (apart : first.Apart second) :
    document.applyAll (earlier ++ first :: second :: later) =
      document.applyAll (earlier ++ second :: first :: later) := by
  rw [applyAll_append, applyAll_append]
  exact congrArg (·.applyAll later) (assign_comm _ first.value second.value apart)

/-- Assignments make an object of every document. -/
theorem applyAll_eq_object (document : Json) (nonempty : assignments ≠ [])
    (spelled : ∀ assignment ∈ assignments, assignment.Spelled) :
    ∃ members, document.applyAll assignments = .object members := by
  obtain ⟨earlier, last, rfl⟩ := (List.eq_nil_or_concat assignments).resolve_left nonempty
  have named := (spelled last (by simp)).segments_ne_nil
  rw [List.concat_eq_append, applyAll_append]
  exact assign_eq_object (document.applyAll earlier) last.value named

end Json

namespace ContextArguments

variable {files : Files} {arguments : ContextArguments} {document : Json}

/-- The assignments are made in the document that the file holds, or in an empty object where none
is given. -/
theorem base_eq_ok_iff : arguments.base files = .ok document ↔
    arguments.file = none ∧ document = .object [] ∨ ∃ path source,
      arguments.file = some path ∧ files path = .ok source ∧ Json.read source = .ok document := by
  rw [base]
  cases arguments.file with
  | none => simp [eq_comm]
  | some path =>
    cases held : files path with
    | error fault => simp [held]
    | ok source => cases read : Json.read source <;> simp [held, read]

/-- What the assignments are made in is ordered. -/
theorem ordered_of_base (based : arguments.base files = .ok document) : document.Ordered := by
  rcases base_eq_ok_iff.1 based with ⟨-, rfl⟩ | ⟨path, source, -, -, read⟩
  · exact .object Fields.ordered_nil fun _ member => absurd member List.not_mem_nil
  · exact Json.ordered_of_read read

theorem load_of_base (based : arguments.base files = .ok document) :
    arguments.load files = .ok (document.applyAll arguments.sets) := by
  rw [load, based]
  rfl

end ContextArguments

/-- Assignments reach the template. Whatever document is read from the file, or without a file, the
assignments of a command line give a context. If there are any, it is an object, which always
has a value. A text is found under the path it was assigned to, if all later assignments lie
apart of it. A path apart of all assignments leads to what it leads to in the document of the
file, in the context and in its value. Two assignments that lie apart and follow each other
can be swapped. -/
theorem assignments_reach_template (files : Files) (arguments : ContextArguments)
    (document : Json)
    (given : arguments.file = none ∧ document = .object [] ∨ ∃ path source,
      arguments.file = some path ∧ files path = .ok source ∧ Json.read source = .ok document)
    (spelled : ∀ assignment ∈ arguments.sets, assignment.Spelled) :
    ∃ context, arguments.load files = .ok context ∧
      (arguments.sets ≠ [] → ∃ members root,
        context = .object members ∧ Value.ofContext context = .ok root) ∧
      (∀ earlier assignment later, arguments.sets = earlier ++ assignment :: later →
        (∀ other ∈ later, other.Apart assignment) →
        ∃ root, Value.ofContext context = .ok root ∧
          root.lookup assignment.path = some (.text assignment.value)) ∧
      (∀ path, (∀ assignment ∈ arguments.sets,
          Path.Apart (Path.segments assignment.path) (Path.segments path)) →
        context.walk? (Path.segments path) = document.walk? (Path.segments path) ∧
        ((Value.ofJson? context).bind fun root => root.lookup path) =
          (document.walk? (Path.segments path)).bind Value.ofJson?) ∧
      ∀ earlier first second later, arguments.sets = earlier ++ first :: second :: later →
        first.Apart second →
        { arguments with sets := earlier ++ second :: first :: later }.load files =
          .ok context := by
  have based := ContextArguments.base_eq_ok_iff.2 given
  have ordered := (ContextArguments.ordered_of_base based).applyAll arguments.sets
  refine ⟨_, ContextArguments.load_of_base based, ?_, ?_, ?_, ?_⟩
  · intro nonempty
    obtain ⟨members, object⟩ := document.applyAll_eq_object nonempty spelled
    exact ⟨members, .record (Value.ofMembers members), object, by rw [object]; rfl⟩
  · intro earlier assignment later split apart
    have assigned := document.walk?_applyAll_self earlier apart
    rw [← split] at assigned
    have found := Value.ofJson?_bind_lookup ordered assignment.path
    rw [assigned, Option.bind_some, Value.ofJson?] at found
    obtain ⟨root, converted, reached⟩ := Option.bind_eq_some_iff.1 found
    exact ⟨root, by rw [Value.ofContext, converted], reached⟩
  · intro path apart
    have kept := document.walk?_applyAll_of_apart apart
    refine ⟨kept, ?_⟩
    rw [Value.ofJson?_bind_lookup ordered, kept]
  · intro earlier first second later split apart
    have swapped := document.applyAll_swap earlier later apart
    rw [split, swapped]
    exact ContextArguments.load_of_base based

/-- Two assignments replace an array in a file and keep its other member, and neither touches the
other. -/
theorem assignments_reach_template_array :
    let document : Json := .object [("theme".toList, .string "dark".toList),
      ("user".toList, .array [.null])]
    let files : Files := fun _ => .ok document.print
    let name : Assignment := ⟨"user.name".toList, "Ada".toList⟩
    let age : Assignment := ⟨"user..age".toList, "36".toList⟩
    Json.read document.print = .ok document ∧ name.Apart age ∧ ∃ context,
      ContextArguments.load files ⟨some "context.json".toList, [name, age]⟩ = .ok context ∧
      (∃ root, Value.ofContext context = .ok root ∧
        root.lookup "user.name".toList = some (.text "Ada".toList)) ∧
      context.walk? ["theme".toList] = some (.string "dark".toList) ∧
      ((Value.ofJson? context).bind fun root => root.lookup "theme".toList) =
        some (.text "dark".toList) ∧
      ContextArguments.load files ⟨some "context.json".toList, [age, name]⟩ = .ok context := by
  intro document files name age
  have read : Json.read document.print = .ok document := by
    refine Json.read_print (.object (by decide) (List.forall_mem_cons.2 ⟨.string _, ?_⟩))
    exact List.forall_mem_singleton.2 (.array (List.forall_mem_singleton.2 .null))
  have apart : name.Apart age := by decide
  have spelled : ∀ assignment ∈ [name, age], assignment.Spelled :=
    List.forall_mem_cons.2 ⟨⟨"user.name=Ada".toList, rfl⟩,
      List.forall_mem_singleton.2 ⟨"user..age=36".toList, rfl⟩⟩
  obtain ⟨context, loaded, -, assigned, kept, swapped⟩ := assignments_reach_template files
    ⟨some "context.json".toList, [name, age]⟩ document (Or.inr ⟨_, _, rfl, rfl, read⟩) spelled
  obtain ⟨walked, reached⟩ := kept "theme".toList (by decide)
  refine ⟨read, apart, context, loaded, ?_, walked, reached, swapped [] name age [] rfl apart⟩
  exact assigned [] name [age] rfl (List.forall_mem_singleton.2 apart.symm)

end Stencil
