/-
This file says how a command ends: what it wrote to its two outputs, and the exit
code or the report it stopped with. The outputs are plain text: no colours, and none
of the log lines, which bear the time and go to the second output as well.
-/

import Stencil.Text.Basic

namespace Stencil

/-- How well a command ended. -/
inductive ExitCode where
  | ok
  /-- The data was wrong, or problems were found in it. -/
  | dataError
  /-- A file could not be read. -/
  | noInput
  deriving DecidableEq, Repr

/-- The number of an exit code. -/
def ExitCode.number : ExitCode → Nat
  | .ok => 0
  | .dataError => 65
  | .noInput => 66

/-- The end of a command. -/
inductive Ending where
  | exit (code : ExitCode)
  /-- The command stopped, with a message to be reported. -/
  | report (message : String)
  deriving DecidableEq, Repr

/-- The number that a command ends with; a report stands for a fault of the program's own. -/
def Ending.number : Ending → Nat
  | .exit code => code.number
  | .report _ => 70

/-- What a command did. -/
structure Outcome where
  ending : Ending
  stdout : Text
  stderr : Text
  deriving DecidableEq, Repr

/-- A text as a line of its own. -/
def asLine (text : Text) : Text :=
  text ++ ['\n']

end Stencil
