/-
This file writes JSON documents over several lines. Every item and every member has
a line of its own, indented by two spaces for each container around it; an empty
container stays on its line. Members are written in the order in which they are
held.
-/

import Stencil.Json.Basic
import Stencil.Json.Quoted

namespace Stencil

namespace Json

/-- The start of a line within the given number of containers. -/
def lineStart (level : Nat) : Text :=
  '\n' :: List.replicate (2 * level) ' '

/-- A container around parts that are written already. -/
def enclose (opening closing : Char) (level : Nat) (parts : List Text) : Text :=
  if parts.isEmpty then [opening, closing]
  else
    opening :: lineStart (level + 1) ++ (',' :: lineStart (level + 1)).intercalate parts ++
      lineStart level ++ [closing]

mutual

/-- A document within the given number of containers. -/
def printAt (level : Nat) : Json → Text
  | .null => ['n', 'u', 'l', 'l']
  | .boolean true => ['t', 'r', 'u', 'e']
  | .boolean false => ['f', 'a', 'l', 's', 'e']
  | .number literal => literal
  | .string content => quote content
  | .array items => enclose '[' ']' level (printItemsAt (level + 1) items)
  | .object members => enclose '{' '}' level (printMembersAt (level + 1) members)

/-- The items of an array. -/
def printItemsAt (level : Nat) : List Json → List Text
  | [] => []
  | item :: rest => printAt level item :: printItemsAt level rest

/-- The members of an object. -/
def printMembersAt (level : Nat) : List (Text × Json) → List Text
  | [] => []
  | (name, item) :: rest => (quote name ++ [':', ' '] ++ printAt level item) :: printMembersAt level rest

end

/-- A document over several lines. -/
def print (document : Json) : Text :=
  printAt 0 document

end Json

end Stencil
