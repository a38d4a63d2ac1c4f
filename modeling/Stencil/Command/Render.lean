/-
This file holds the command that renders a template by name. The context comes
first, then the fallback, then the page; the first that fails ends the command.
-/

import Stencil.Command.Context
import Stencil.Json.Printer
import Stencil.Source.Directory
import Stencil.Source.Views

namespace Stencil

/-- The fallback of a rendering, or the report that its file cannot be read. -/
def RenderArguments.loadFallback (files : Files) (arguments : RenderArguments) :
    Except String Text :=
  match arguments.fallback with
  | none => .ok defaultFallback
  | some path =>
    match files path with
    | .ok template => .ok template
    | .error fault =>
      .error s!"Cannot read fallback template {String.ofList path}: {fault.message}"

namespace RenderCommand

/-- What a rendered page is written as. -/
def success (json : Bool) (output : Text) : Text :=
  if json then asLine (Json.print (.object [("output".toList, .string output)])) else output

/-- What a refused context is reported as. -/
def failure (json : Bool) (error : InvalidContext) : Text :=
  if json then asLine (Json.print (.object [("error".toList, .string error.message.toList)]))
  else asLine ("Render error: " ++ error.message).toList

/-- The command that renders a template by name. -/
def run (files : Files) (arguments : RenderArguments) : Outcome :=
  match arguments.context.load files with
  | .error error => error.outcome
  | .ok context =>
    match arguments.loadFallback files with
    | .error message => ⟨.report message, [], []⟩
    | .ok fallback =>
      let views : Views MountedDirectory :=
        ⟨⟨files, .ofRoot arguments.views true⟩, fallback⟩
      match (views.render arguments.name context).1 with
      | .ok output => ⟨.exit .ok, success arguments.json output, []⟩
      | .error error => ⟨.exit .dataError, [], failure arguments.json error⟩

end RenderCommand

end Stencil
