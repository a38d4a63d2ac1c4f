/-
This file says what a source of templates is: something that answers a name with a
template or the reason why it has none, and may remember what it answered.
-/

import Stencil.Fields
import Stencil.Source.Disk

namespace Stencil

/-- Why a template could not be loaded. -/
inductive LoadError where
  /-- No template has this name. -/
  | notFound (name : Text)
  /-- The name does not stay below the directory of the templates. -/
  | invalidName (name : Text)
  /-- There is a file, but it cannot be read. -/
  | unreadable (path : Text) (fault : ReadFault)
  deriving DecidableEq, Repr

/-- The text that reports why a template could not be loaded. -/
def LoadError.message : LoadError → String
  | .notFound name => s!"template not found: '{String.ofList name}'"
  | .invalidName name =>
    s!"invalid template name '{String.ofList name}': " ++
      "must be relative and stay inside the views directory"
  | .unreadable path fault => s!"failed to read '{String.ofList path}': {fault.message}"

/-- Something that templates are loaded from by name. -/
class TemplateSource (Source : Type) where
  /-- The template of a name, or why there is none, and the source afterwards. -/
  load : Source → Text → Except LoadError Text × Source

/-- Templates that are held under their names. -/
structure MemorySource where
  templates : Fields Text

namespace MemorySource

/-- A source with the given templates; of several with one name the last one counts. -/
def ofList (templates : List (Text × Text)) : MemorySource :=
  ⟨Fields.ofList templates⟩

/-- The source with a template stored, in place of an earlier one of that name. -/
def insert (source : MemorySource) (name template : Text) : MemorySource :=
  ⟨source.templates.put name template⟩

/-- The number of templates. -/
def size (source : MemorySource) : Nat :=
  source.templates.length

/-- Whether there is no template. -/
def isEmpty (source : MemorySource) : Bool :=
  source.templates.isEmpty

/-- The template of a name. -/
def load (source : MemorySource) (name : Text) : Except LoadError Text :=
  match source.templates.lookup name with
  | some template => .ok template
  | none => .error (.notFound name)

instance : TemplateSource MemorySource where
  load source name := (source.load name, source)

end MemorySource

end Stencil
