/-
This file makes the context that a command renders with: the document of a file, or
an empty object where no file is given, with the assignments made in order.
-/

import Stencil.Command.Arguments
import Stencil.Command.Diagnostic
import Stencil.Json.Reader
import Stencil.Source.Disk

namespace Stencil

/-- Why there is no context. -/
inductive ContextError where
  /-- The file cannot be read. -/
  | unreadable (path : Text) (fault : ReadFault)
  /-- The file holds no JSON document. -/
  | malformed (source : Text) (fault : Json.Fault)
  deriving DecidableEq, Repr

namespace ContextError

/-- The exit code of a command without a context. -/
def exitCode : ContextError → ExitCode
  | .unreadable _ _ => .noInput
  | .malformed _ _ => .dataError

/-- What a command without a context writes. -/
def report : ContextError → Text
  | .unreadable path fault =>
    asLine (s!"cannot read context file {String.ofList path}: {fault.message}").toList
  | .malformed source fault => (Diagnostic.ofFault source fault).lines

/-- The outcome of a command without a context. -/
def outcome (error : ContextError) : Outcome :=
  ⟨.exit error.exitCode, [], error.report⟩

end ContextError

namespace ContextArguments

/-- The document that the assignments are made in. -/
def base (files : Files) (arguments : ContextArguments) : Except ContextError Json :=
  match arguments.file with
  | none => .ok (.object [])
  | some path =>
    match files path with
    | .error fault => .error (.unreadable path fault)
    | .ok source =>
      match Json.read source with
      | .error fault => .error (.malformed source fault)
      | .ok document => .ok document

/-- The context that is given. -/
def load (files : Files) (arguments : ContextArguments) : Except ContextError Json :=
  (arguments.base files).map fun document => document.applyAll arguments.sets

end ContextArguments

end Stencil
