/-
This file reads a whole command line. Its first name is that of a command, and what stands behind
it are the arguments of the command. Some switches may stand on both sides of the name, once on
each side where they may stand once: they choose the colours and how much is logged, which no
outcome shows. In front of the name the version can be asked for as well.
-/

import Stencil.Command.Arguments

namespace Stencil

/-- What a command line asks for. -/
inductive Request where
  | render (arguments : RenderArguments)
  | check (arguments : CheckArguments)
  | version
  deriving DecidableEq, Repr

namespace Request

/-- What is asked for by the name of a command and the arguments behind it. -/
def ofCommand (environment : Environment) (command : Text) (arguments : List Text) :
    Except UsageError Request :=
  if command = "render".toList then do
    let given ← Arguments.read Grammar.render.withGlobals arguments
    render <$> RenderArguments.ofGiven environment given
  else if command = "check".toList then do
    let given ← Arguments.read Grammar.check.withGlobals arguments
    check <$> CheckArguments.ofGiven given
  else .error .unknownArgument

/-- What is asked for by the rest of a command line, where no command is named yet. Two dashes
alone hide the name of the command. -/
def readFrom (environment : Environment) (reading : ArgumentReading) :
    List Text → Except UsageError Request
  | [] => do
    let _ ← reading.settle
    .error .missingName
  | argument :: rest =>
    if reading.onlyNames then .error .unknownArgument
    else do
      let next ← reading.step .program argument
      if next.given.version then .ok version
      else
        match next.given.name with
        | none => readFrom environment next rest
        | some command => ofCommand environment command rest

/-- What a command line asks for. -/
def read (environment : Environment) (arguments : List Text) : Except UsageError Request :=
  readFrom environment .start arguments

end Request

end Stencil
