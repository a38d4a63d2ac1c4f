/-
This file renders templates by name. When a template cannot be loaded the fallback
is rendered in its place, with the name and the reason as its data, so a page
always comes back once the context is a value. A context that is none is refused
before the source is asked for anything.
-/

import Stencil.Render.Page
import Stencil.Source.Load

namespace Stencil

/-- Templates that are rendered by name. -/
structure Views (Source : Type) where
  source : Source
  /-- The template that is rendered when the one asked for cannot be loaded. -/
  fallback : Text

/-- The page that is shown when no other fallback is given. -/
def defaultFallback : Text :=
  "<h1>Rendering error</h1>\n<p>The template <code>".toList ++
    Placeholder.written " error.filename ".toList ++ "</code> could not be loaded.</p>\n".toList

/-- The data of the fallback: the name that was asked for and the reason. -/
def LoadError.context (name : Text) (error : LoadError) : Value :=
  .ofFields [("error".toList, .ofFields
    [("filename".toList, .text name), ("message".toList, .text error.message.toList)])]

namespace Views

variable {Source : Type} [TemplateSource Source]

/-- The page of what was loaded under a name. -/
def pageOf (fallback name : Text) (context : Value) : Except LoadError Text → Text
  | .ok template => Render.page context template
  | .error error => Render.page (error.context name) fallback

/-- The template of a name, and the views afterwards. -/
def load (views : Views Source) (name : Text) : Except LoadError Text × Views Source :=
  let (loaded, source) := TemplateSource.load views.source name
  (loaded, { views with source := source })

/-- The page of a name for a value, and the views afterwards. -/
def renderValue (views : Views Source) (name : Text) (context : Value) : Text × Views Source :=
  let (loaded, after) := views.load name
  (pageOf views.fallback name context loaded, after)

/-- The page of a name for a document, and the views afterwards; a refused document leaves
them as they were. -/
def render (views : Views Source) (name : Text) (context : Json) :
    Except InvalidContext Text × Views Source :=
  match Value.ofContext context with
  | .error error => (.error error, views)
  | .ok value =>
    let (page, after) := views.renderValue name value
    (.ok page, after)

end Views

end Stencil
