/-
This file points at places in files. A diagnostic has a message, a label on some
bytes of the file and possibly help. A fault in a JSON file is reported by line and
column; the label is put back at an offset by adding up the lines before it, each
with one byte for its end.
-/

import Stencil.Json.Fault
import Stencil.Marker.Basic
import Stencil.Command.Outcome

namespace Stencil

/-- A message about some bytes of a file. -/
structure Diagnostic where
  message : String
  offset : Nat
  length : Nat
  help : Option String
  deriving DecidableEq, Repr

/-- A line without the carriage return that ends it together with the line feed. -/
def Text.withoutReturn (line : Text) : Text :=
  if line.getLast? = some '\r' then line.dropLast else line

/-- The lines of a text without their ends; a line feed or a carriage return and a line feed
end a line, and nothing behind the last end is no line. -/
def Text.lines (text : Text) : List Text :=
  let pieces := text.splitOn '\n'
  pieces.dropLast.map Text.withoutReturn ++ pieces.getLast?.toList.filter (· ≠ [])

namespace Diagnostic

/-- The word that stands for the diagnostics of a check. -/
def code : String := "zt::check"

/-- The diagnostic as lines: its message, its code, its label and its help. -/
def lines (diagnostic : Diagnostic) : Text :=
  asLine (s!"diagnostic: {diagnostic.message}").toList ++
    asLine (s!"code: {code}").toList ++
    asLine (s!"label: {diagnostic.offset}+{diagnostic.length} here").toList ++
    match diagnostic.help with
    | some help => asLine (s!"help: {help}").toList
    | none => []

/-- The diagnostic of an opener that nothing closes. -/
def ofUnclosed (unclosed : Unclosed) : Diagnostic where
  message := s!"#{unclosed.kind.name} block is never closed"
  offset := unclosed.offset
  length := unclosed.kind.opener.size
  help := some (s!"add {String.ofList unclosed.kind.closer} after the block body; " ++
    "until then the opener renders as text")

/-- The offset of a place that is given by a line and the bytes read in it. -/
def labelOffset (source : Text) (line column : Nat) : Nat :=
  let before := (source.lines.take (line - 1)).foldr (fun line bytes => line.size + 1 + bytes) 0
  min (before + (column - 1)) source.size

/-- The diagnostic of a fault in a JSON file. -/
def ofFault (source : Text) (fault : Json.Fault) : Diagnostic where
  message := s!"invalid JSON: {fault.message source}"
  offset := labelOffset source (fault.line source) (fault.column source)
  length := 1
  help := none

end Diagnostic

end Stencil
