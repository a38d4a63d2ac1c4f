/-
This file renders a template. Three passes follow one another: the `each` blocks,
whose bodies hold placeholders for the fields of an item, then the `for` blocks,
then the placeholders that are left. Each pass reads what the pass before it
wrote, but an opener that nothing closes is reported at the place where it stands
in the template as it was given.
-/

import Stencil.Render.Expansion
import Stencil.Value.Document

namespace Stencil

namespace Render

/-- The template with its `each` blocks expanded. -/
def afterEach (root : Value) (template : Text) : Text :=
  expand .each root template

/-- The template with its blocks of both kinds expanded. -/
def afterBlocks (root : Value) (template : Text) : Text :=
  expand .loop root (afterEach root template)

/-- The page that a template and its data make. -/
def page (root : Value) (template : Text) : Text :=
  interpolate root (afterBlocks root template)

/-- What is reported of a template, in the order of discovery. -/
def pageWarnings (root : Value) (isItem : Bool) (template : Text) : List Warning :=
  unclosedWarnings .each template ++ blockWarnings .each root template ++
    unclosedWarnings .loop template ++ blockWarnings .loop root (afterEach root template) ++
    interpolationWarnings root isItem (afterBlocks root template)

end Render

/-- The page of a template, and the scope with what was reported. -/
def Scope.render (scope : Scope) (template : Text) : Text × Scope :=
  (Render.page scope.root template,
    scope.warnAll (Render.pageWarnings scope.root scope.isItem template))

/-- A page and what was reported of its template, each warning once. -/
structure Rendered where
  output : Text
  warnings : List Warning

/-- The page of a template with its warnings. -/
def render (root : Value) (template : Text) : Rendered :=
  let (output, scope) := (Scope.ofRoot root).render template
  ⟨output, scope.warnings⟩

/-- The page of a template whose data is a document, unless the document is refused. -/
def renderDocument (context : Json) (template : Text) : Except InvalidContext Text :=
  (Value.ofContext context).map fun root => Render.page root template

end Stencil
