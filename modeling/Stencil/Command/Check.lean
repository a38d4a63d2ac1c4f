/-
This file holds the command that checks a template. It lists the markers of the
template and the openers that nothing closes and, when a context is given, reports
what rendering with it warns of. A template without either problem is clean.
-/

import Stencil.Command.Context
import Stencil.Command.Table
import Stencil.Json.Printer
import Stencil.Marker.Outline
import Stencil.Render.Page

namespace Stencil

namespace CheckCommand

/-- A marker as it is listed. -/
structure Row where
  kind : String
  target : Text
  position : Position

/-- The place of an offset; the offsets of markers all have one. -/
def place (template : Text) (offset : Nat) : Position :=
  (Position.ofOffset? template offset).getD ⟨0, 0⟩

/-- The rows of the markers of a template. -/
def markerRows (template : Text) (outline : Outline) : List Row :=
  outline.markers.map fun marker =>
    ⟨marker.kindName, marker.path, place template marker.span.start⟩

/-- The rows of the openers that nothing closes; they have no target. -/
def unclosedRows (template : Text) (outline : Outline) : List Row :=
  outline.unclosed.map fun unclosed =>
    ⟨unclosed.kind.name, [], place template unclosed.offset⟩

/-- The names of the columns. -/
def header : List Text :=
  ["Kind".toList, "Target".toList, "Position".toList]

/-- A row of the table. -/
def Row.cells (row : Row) : List Text :=
  [row.kind.toList, row.target, (s!"{row.position.line}:{row.position.column}").toList]

/-- A row as a document. -/
def Row.toJson (row : Row) : Json :=
  .object [("kind".toList, .string row.kind.toList), ("target".toList, .string row.target),
    ("line".toList, .number (Decimal.digits row.position.line)),
    ("column".toList, .number (Decimal.digits row.position.column))]

/-- What rendering with the given context warns of; nothing where none is given. -/
def warnings (files : Files) (template : Text) (arguments : ContextArguments) :
    Except Outcome (List Warning) :=
  if arguments.isGiven then
    match arguments.load files with
    | .error error => .error error.outcome
    | .ok context =>
      match Value.ofContext context with
      | .error error =>
        .error ⟨.exit .dataError, [], asLine ("Render error: " ++ error.message).toList⟩
      | .ok root => .ok (render root template).warnings
  else .ok []

/-- What was found, as a document. -/
def document (template : Text) (outline : Outline) (found : List Warning) : Json :=
  .object [("markers".toList, .array ((markerRows template outline).map Row.toJson)),
    ("unterminated".toList, .array ((unclosedRows template outline).map Row.toJson)),
    ("warnings".toList, .array (found.map fun warning => .string warning.message.toList))]

/-- What was found, as lines: a table, the problems and whether there are any. -/
def listing (file template : Text) (outline : Outline) (found : List Warning) (clean : Bool) :
    Text × Text :=
  let table := Table.draw header ((markerRows template outline).map Row.cells)
  let verdict := if clean then asLine (file ++ " no problems found".toList) else []
  let diagnostics := outline.unclosed.flatMap fun unclosed => (Diagnostic.ofUnclosed unclosed).lines
  let notes := found.flatMap fun warning => asLine ("warning: " ++ warning.message).toList
  (table ++ verdict, diagnostics ++ notes)

/-- The command that checks a template. -/
def run (files : Files) (arguments : CheckArguments) : Outcome :=
  match files arguments.file with
  | .error fault =>
    ⟨.report s!"Cannot read template {String.ofList arguments.file}: {fault.message}", [], []⟩
  | .ok template =>
    match warnings files template arguments.context with
    | .error outcome => outcome
    | .ok found =>
      let outline := Outline.ofText template
      let clean := outline.unclosed.isEmpty && found.isEmpty
      let ending : Ending := .exit (if clean then .ok else .dataError)
      if arguments.json then ⟨ending, asLine (document template outline found).print, []⟩
      else
        let (stdout, stderr) := listing arguments.file template outline found clean
        ⟨ending, stdout, stderr⟩

end CheckCommand

end Stencil
