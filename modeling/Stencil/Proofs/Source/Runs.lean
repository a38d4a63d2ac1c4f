/-
This file says once what a load and what an operation can do to a source. A load answers
from what is remembered, or reads a file and remembers what it read, or fails and leaves
the source as it was. A rendering is a load, unless its context is refused. An operation
asks the source for the template of one name, clears what is remembered, or leaves the
source alone. What holds of a source after every run is proved from these cases.
-/

import Stencil.Source.Session

namespace Stencil

namespace DirectorySource

variable {files : Files} {source : DirectorySource} {name template : Text}

/-! ### Names and files -/

/-- The source accepts a name: it has a path for it. -/
def Accepts (source : DirectorySource) (name : Text) : Prop :=
  ∃ path, source.path? name = .ok path

theorem path?_eq_ok_iff {path : Text} : source.path? name = .ok path ↔
    FilePath.staysInside name ∧ path = FilePath.join source.root name := by
  rw [path?]
  split
  · rename_i inside
    simp [inside, eq_comm]
  · rename_i outside
    simp [outside]

theorem accepts_iff : source.Accepts name ↔ FilePath.staysInside name := by
  simp only [Accepts, path?_eq_ok_iff, exists_and_left, exists_eq, and_true]

theorem readFile_of_not_accepts (refused : ¬ source.Accepts name) :
    source.readFile files name = .error (.invalidName name) := by
  rw [accepts_iff] at refused
  rw [readFile, path?, if_neg refused]

/-- What is read is what the file of an accepted name holds. -/
theorem readFile_eq_ok_iff : source.readFile files name = .ok template ↔
    source.Accepts name ∧ files (FilePath.join source.root name) = .ok template := by
  by_cases accepted : source.Accepts name
  · have located : source.path? name = .ok (FilePath.join source.root name) :=
      path?_eq_ok_iff.2 ⟨accepts_iff.1 accepted, rfl⟩
    cases held : files (FilePath.join source.root name) with
    | ok content => simp [readFile, located, held, accepted]
    | error fault => cases fault <;> simp [readFile, located, held]
  · simp [readFile_of_not_accepts accepted, accepted]

/-! ### Loading -/

/-- What a load can do. -/
theorem cases_load (files : Files) (source : DirectorySource) (name : Text) :
    (∃ template, source.remembered? name = some template ∧
      source.load files name = (.ok template, source)) ∨
    (source.remembered? name = none ∧ ∃ template, source.readFile files name = .ok template ∧
      source.load files name = (.ok template, source.remember name template)) ∨
    (source.remembered? name = none ∧ ∃ error, source.readFile files name = .error error ∧
      source.load files name = (.error error, source)) := by
  cases remembered : source.remembered? name with
  | some template => exact Or.inl ⟨template, rfl, by rw [load, remembered]⟩
  | none =>
    cases read : source.readFile files name with
    | ok template => exact Or.inr (Or.inl ⟨rfl, template, rfl, by rw [load, remembered, read]⟩)
    | error error => exact Or.inr (Or.inr ⟨rfl, error, rfl, by rw [load, remembered, read]⟩)

theorem load_of_remembered (remembered : source.remembered? name = some template)
    (files : Files) : source.load files name = (.ok template, source) := by
  rw [load, remembered]

/-- A name that is not remembered is decided by its file. -/
theorem load_of_not_remembered (fresh : source.remembered? name = none) (files : Files) :
    (source.load files name).1 = source.readFile files name := by
  rw [load, fresh]
  cases source.readFile files name <;> rfl

/-- A load that fails leaves the source as it was, without the name. -/
theorem eq_of_load_error {error : LoadError} (failed : (source.load files name).1 = .error error) :
    (source.load files name).2 = source ∧ source.remembered? name = none := by
  rcases cases_load files source name with
    ⟨template, -, loaded⟩ | ⟨-, template, -, loaded⟩ | ⟨fresh, _, -, loaded⟩
  · rw [loaded] at failed
    contradiction
  · rw [loaded] at failed
    contradiction
  · rw [loaded]
    exact ⟨rfl, fresh⟩

/-- What remembering a file that was read keeps, a load keeps. -/
theorem load_keeps (Holds : DirectorySource → Prop) (holds : Holds source)
    (remembers : ∀ template, source.readFile files name = .ok template →
      Holds (source.remember name template)) : Holds (source.load files name).2 := by
  rcases cases_load files source name with
    ⟨template, -, loaded⟩ | ⟨-, template, read, loaded⟩ | ⟨-, error, -, loaded⟩
  · rw [loaded]
    exact holds
  · rw [loaded]
    exact remembers template read
  · rw [loaded]
    exact holds

@[simp] theorem root_remember : (source.remember name template).root = source.root := by
  rw [remember]
  split <;> rfl

@[simp] theorem root_load : (source.load files name).2.root = source.root :=
  load_keeps (fun after => after.root = source.root) rfl fun _ _ => root_remember

/-- A source that does not remember stays as it is. -/
theorem remember_of_not_caching (forgets : source.caching = false) (name template : Text) :
    source.remember name template = source := by
  rw [remember, if_neg (by simp [forgets])]

/-- A source that does not remember answers from the files. -/
theorem load_of_not_caching (forgets : source.caching = false) (files : Files) (name : Text) :
    source.load files name = (source.readFile files name, source) := by
  have fresh : source.remembered? name = none := by rw [remembered?, if_neg (by simp [forgets])]
  rw [load, fresh]
  cases source.readFile files name with
  | ok template => simp only [remember_of_not_caching forgets]
  | error error => rfl

end DirectorySource

/-! ### Renderings -/

namespace Views

variable {Source : Type} [TemplateSource Source]

theorem render_of_refused {context : Json} (refused : Value.ofJson? context = none)
    (views : Views Source) (name : Text) :
    views.render name context = (.error ⟨context.kind⟩, views) := by
  rw [render, Value.ofContext, refused]

theorem render_of_value {context : Json} {root : Value}
    (converted : Value.ofJson? context = some root) (views : Views Source) (name : Text) :
    views.render name context =
      (.ok (pageOf views.fallback name root (views.load name).1), (views.load name).2) := by
  rw [render, Value.ofContext, converted]
  rfl

end Views

/-! ### Operations -/

/-- The name whose template an operation asks the source for. A rendering with a context that is
refused asks for none. -/
def Operation.asked? : Operation → Option Text
  | .load name => some name
  | .loadView name => some name
  | .render name context => (Value.ofJson? context).map fun _ => name
  | .renderValue name _ => some name
  | .clearCache => none
  | .write _ _ => none
  | .remove _ => none
  | .makeDirectory _ => none

namespace Session

variable {session : Session} {operation : Operation}

theorem run_load (session : Session) (name : Text) :
    session.run (.load name) = (.loaded (session.source.load session.disk.read name).1,
      { session with source := (session.source.load session.disk.read name).2 }) :=
  rfl

theorem run_render_of_refused {context : Json} (refused : Value.ofJson? context = none)
    (session : Session) (name : Text) :
    session.run (.render name context) = (.rendered (.error ⟨context.kind⟩), session) := by
  simp only [run, Views.render_of_refused refused]
  rfl

/-- A rendering leaves the session as a load of its name does. -/
theorem run_render_of_value {context : Json} {root : Value}
    (converted : Value.ofJson? context = some root) (session : Session) (name : Text) :
    session.run (.render name context) =
      (.rendered (session.views.render name context).1, (session.run (.load name)).2) := by
  simp only [run, Views.render_of_value converted]
  rfl

/-- The views ask their source. -/
theorem run_loadView (session : Session) (name : Text) :
    session.run (.loadView name) = session.run (.load name) :=
  rfl

/-- An operation that asks for a name changes the session as a load of that name does. -/
theorem run_of_asked {name : Text} (asked : operation.asked? = some name) :
    (session.run operation).2 =
      { session with source := (session.source.load session.disk.read name).2 } := by
  cases operation with
  | load other =>
    obtain rfl : other = name := Option.some.inj asked
    rfl
  | loadView other =>
    obtain rfl : other = name := Option.some.inj asked
    rfl
  | render other context =>
    obtain ⟨root, converted, rfl⟩ := Option.map_eq_some_iff.1 asked
    rw [run_render_of_value converted]
    rfl
  | renderValue other context =>
    obtain rfl : other = name := Option.some.inj asked
    rfl
  | clearCache => contradiction
  | write path bytes => contradiction
  | remove path => contradiction
  | makeDirectory path => contradiction

/-- What an operation can do to the source. -/
theorem cases_run (session : Session) (operation : Operation) :
    (∃ name, operation.asked? = some name ∧ (session.run operation).2.source =
      (session.source.load session.disk.read name).2) ∨
    (operation = .clearCache ∧ (session.run operation).2.source = session.source.clearCache) ∨
    (operation ≠ .clearCache ∧ operation.asked? = none ∧
      (session.run operation).2.source = session.source) := by
  cases asked : operation.asked? with
  | some name => exact Or.inl ⟨name, rfl, by rw [run_of_asked asked]⟩
  | none =>
    right
    cases operation with
    | load name => contradiction
    | loadView name => contradiction
    | render name context =>
      have refused : Value.ofJson? context = none := Option.map_eq_none_iff.1 asked
      exact Or.inr ⟨nofun, rfl, by rw [run_render_of_refused refused]⟩
    | renderValue name context => contradiction
    | clearCache => exact Or.inl ⟨rfl, rfl⟩
    | write path bytes => exact Or.inr ⟨nofun, rfl, rfl⟩
    | remove path => exact Or.inr ⟨nofun, rfl, rfl⟩
    | makeDirectory path => exact Or.inr ⟨nofun, rfl, rfl⟩

/-! ### Runs -/

section Invariants

variable (Holds : DirectorySource → Prop)
  (loads : ∀ source files name, Holds source → Holds (source.load files name).2)
  (clears : ∀ source, Holds source → Holds source.clearCache)

include loads clears

/-- What loading and forgetting keep, every operation keeps. -/
theorem run_keeps (session : Session) (operation : Operation) (holds : Holds session.source) :
    Holds (session.run operation).2.source := by
  rcases cases_run session operation with
    ⟨name, -, changed⟩ | ⟨-, changed⟩ | ⟨-, -, changed⟩
  · rw [changed]
    exact loads session.source session.disk.read name holds
  · rw [changed]
    exact clears session.source holds
  · rw [changed]
    exact holds

/-- What loading and forgetting keep, every run keeps. -/
theorem runAll_keeps (session : Session) (operations : List Operation)
    (holds : Holds session.source) : Holds (session.runAll operations).source := by
  induction operations generalizing session with
  | nil => exact holds
  | cons operation later inductionHypothesis =>
    exact inductionHypothesis _ (run_keeps Holds loads clears session operation holds)

end Invariants

/-- The directory of the templates stays the same. -/
@[simp] theorem root_runAll (session : Session) (operations : List Operation) :
    (session.runAll operations).source.root = session.source.root :=
  runAll_keeps (fun source => source.root = session.source.root)
    (fun _ _ _ kept => DirectorySource.root_load.trans kept) (fun _ kept => kept)
    session operations rfl

end Session

end Stencil
