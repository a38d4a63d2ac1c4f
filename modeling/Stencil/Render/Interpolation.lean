/-
This file fills the placeholders of a text. A placeholder whose path leads to a
text gives way to that text; every other one stays as it is written and, unless a
later pass looks at it from another root, is reported. What is put in is not read
again within the pass.
-/

import Stencil.Marker.Placeholders
import Stencil.Render.Edit
import Stencil.Render.Scope
import Stencil.Render.Suggestion

namespace Stencil

namespace Placeholder

/-- The edit that fills a placeholder, if its path leads to a text. -/
def edit? (root : Value) (placeholder : Placeholder) : Option Edit :=
  (root.lookupText placeholder.path).map fun content => ⟨placeholder.span, content⟩

/-- What is reported of a placeholder. The scope of an item reports no path that leads
nowhere. -/
def warning? (root : Value) (isItem : Bool) (placeholder : Placeholder) : Option Warning :=
  match root.lookup placeholder.path with
  | some (.text _) => none
  | some other => some (.notText placeholder.path other.shape)
  | none =>
    if isItem then none
    else some (.unresolved placeholder.path (root.suggest? placeholder.path))

end Placeholder

namespace Render

/-- The text with its placeholders filled. -/
def interpolate (root : Value) (text : Text) : Text :=
  Edit.splice text ((Placeholder.scan text).filterMap (Placeholder.edit? root))

/-- What is reported of the placeholders of a text. -/
def interpolationWarnings (root : Value) (isItem : Bool) (text : Text) : List Warning :=
  (Placeholder.scan text).filterMap (Placeholder.warning? root isItem)

end Render

/-- The text with its placeholders filled, and the scope with what was reported. -/
def Scope.interpolate (scope : Scope) (text : Text) : Text × Scope :=
  (Render.interpolate scope.root text,
    scope.warnAll (Render.interpolationWarnings scope.root scope.isItem text))

end Stencil
