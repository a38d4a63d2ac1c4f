/-
This file writes texts into a document by path. An assignment is spelled as a path
and a text around the first equals sign. It makes the objects its path passes
through where there are none, in place of whatever else stands there, and leaves
every member it does not pass as it was.
-/

import Stencil.Json.Basic
import Stencil.Path
import Stencil.Text.Search

namespace Stencil

/-- A text and the path it is written at. -/
structure Assignment where
  path : Text
  value : Text
  deriving DecidableEq, Repr

/-- Why a text spells no assignment. -/
inductive AssignmentError where
  | noEqualsSign (source : Text)
  | emptyPath (source : Text)
  deriving DecidableEq, Repr

/-- The text that reports why a text spells no assignment. -/
def AssignmentError.message : AssignmentError → String
  | .noEqualsSign source =>
    s!"invalid assignment '{String.ofList source}': expected key.path=value"
  | .emptyPath source => s!"invalid assignment '{String.ofList source}': empty key"

namespace Assignment

/-- The assignment that a text spells. -/
def read (source : Text) : Except AssignmentError Assignment :=
  match Text.cut? ['='] source with
  | none => .error (.noEqualsSign source)
  | some (path, value) =>
    if Path.segments path = [] then .error (.emptyPath source) else .ok ⟨path, value⟩

end Assignment

namespace Json

/-- The document with a text written where the segments lead. -/
def assign (document : Json) (value : Text) : List Text → Json
  | [] => .string value
  | segment :: rest =>
    let member := (document.members.lookup segment).getD (.object [])
    .object (Fields.put segment (assign member value rest) document.members)

/-- The document with one assignment made. -/
def apply (document : Json) (assignment : Assignment) : Json :=
  document.assign assignment.value (Path.segments assignment.path)

/-- The document with assignments made one after the other. -/
def applyAll (document : Json) (assignments : List Assignment) : Json :=
  assignments.foldl apply document

end Json

end Stencil
