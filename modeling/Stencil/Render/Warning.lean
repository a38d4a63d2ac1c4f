/-
This file lists what a template can hold that renders silently, and how each is
reported. A warning names its cause; the wording stands in one function.
-/

import Stencil.Marker.Basic
import Stencil.Value.Basic

namespace Stencil

/-- Something in a template that rendered silently. -/
inductive Warning where
  /-- A placeholder whose path leads nowhere was left in place. -/
  | unresolved (path : Text) (suggestion : Option Text)
  /-- A placeholder whose path leads to a list or a record was left in place. -/
  | notText (path : Text) (found : Shape)
  /-- A block whose target is no list rendered as nothing. -/
  | notAList (kind : BlockKind) (target : Text) (found : Shape)
  /-- An item that is no text was left out of a `for` block. -/
  | skippedItem (target : Text) (index : Nat) (found : Shape)
  /-- The body of a block holds an opener of its own kind. -/
  | nestedBlock (kind : BlockKind) (target : Text)
  /-- An opener that nothing closes was left in place. -/
  | unclosedBlock (kind : BlockKind) (offset : Nat)
  deriving DecidableEq, Repr

/-- The question that offers a suggestion. -/
def Warning.didYouMean : Option Text → String
  | none => ""
  | some suggestion => s!", did you mean '{String.ofList suggestion}'?"

/-- The text that reports a warning. -/
def Warning.message : Warning → String
  | .unresolved path suggestion =>
    s!"unresolved variable '{String.ofList path}'{didYouMean suggestion}"
  | .notText path found => s!"variable '{String.ofList path}' is a {found.name}, not text"
  | .notAList kind target found =>
    s!"#{kind.name} target '{String.ofList target}' is {found.name}, expected a list"
  | .skippedItem target index found =>
    s!"#for '{String.ofList target}' skipped item {index}: {found.name} is not text"
  | .nestedBlock kind target =>
    s!"nested #{kind.name} inside #{kind.name} '{String.ofList target}' is not supported; " ++
      "the outer block ends at the first closer"
  | .unclosedBlock kind offset => s!"#{kind.name} opened at byte {offset} has no closing tag"

end Stencil
