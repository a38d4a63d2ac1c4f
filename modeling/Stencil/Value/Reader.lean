/-
This file reads a value from a JSON source. A source that begins with a number, a
boolean or null is refused as soon as that is read, so what follows it is not
looked at; every other source must hold one document and nothing else.
-/

import Stencil.Json.Reader
import Stencil.Value.Document

namespace Stencil

namespace Value

/-- Why a source holds no value. -/
inductive ReadError where
  | refused (error : InvalidContext)
  | malformed (fault : Json.Fault)
  deriving DecidableEq, Repr

/-- The value that a source holds. -/
def read (source : Text) : Except ReadError Value :=
  match Json.readValue Json.maximalDepth source with
  | .error fault => .error (.malformed fault)
  | .ok (document, rest) =>
    match ofContext document with
    | .error error => .error (.refused error)
    | .ok value =>
      match Json.trailing? rest.1 with
      | some fault => .error (.malformed fault)
      | none => .ok value

end Value

end Stencil
