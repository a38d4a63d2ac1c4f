/-
This file runs the commands from a command line. It reads the arguments, the
environment and the files that a command may look at, hands them over, and writes
what comes back.
-/

import Stencil.Command.Check
import Stencil.Command.Program
import Stencil.Command.Render

namespace Stencil

/-- The fault with a number of the operating system, which may come with its sign changed. -/
def ReadFault.ofCode? (code : UInt32) : Option ReadFault :=
  match if code < 0x80000000 then code else 0 - code with
  | 20 => some .notADirectory
  | 21 => some .isADirectory
  | 36 => some .nameTooLong
  | _ => none

/-- The fault that a failed read is reported as. -/
def ReadFault.ofError (error : IO.Error) : ReadFault :=
  match error with
  | .noFileOrDirectory _ _ _ => .missing
  | .inappropriateType _ code _ => (ofCode? code).getD (.other error.toString)
  | .invalidArgument _ code _ => (ofCode? code).getD (.other error.toString)
  | _ => .other error.toString

/-- The text of the file at a path. -/
def readFile (path : Text) : IO (Except ReadFault Text) := do
  if '\x00' ∈ path then
    return .error .nulInName
  else
    try
      return decodeUtf8 (← IO.FS.readBinFile (String.ofList path))
    catch error =>
      return .error (.ofError error)

/-- The files at the given paths, as they are now. -/
def readFiles (paths : List Text) : IO Files := do
  let contents ← paths.mapM fun path => return (path, ← readFile path)
  return fun path => (contents.lookup path).getD (.error .missing)

/-- Writes what a command did, and ends with its number. -/
def finish (outcome : Outcome) : IO UInt32 := do
  let stdout ← IO.getStdout
  let stderr ← IO.getStderr
  stdout.putStr (String.ofList outcome.stdout)
  stderr.putStr (String.ofList outcome.stderr)
  if let .report message := outcome.ending then
    stderr.putStrLn message
  return outcome.ending.number.toUInt32

/-- How the commands are called. -/
def usage : String :=
  "usage: zt [GLOBAL]... render NAME [--views DIR] [--fallback FILE] [CONTEXT]... [--json]\n" ++
  "       zt [GLOBAL]... check FILE [CONTEXT]... [--json]\n" ++
  "       zt --version\n" ++
  "CONTEXT is -c FILE, or -s KEY.PATH=VALUE any number of times. GLOBAL may stand behind the\n" ++
  "name of the command too, and is --color auto|always|never, or -v any number of times."

/-- The name and the version of the program. -/
def version : String :=
  "zt 0.1.0"

/-- Reports arguments that are refused, or the help that is asked for. -/
def refuse (error : UsageError) : IO UInt32 := do
  if error = .help then
    (← IO.getStdout).putStrLn usage
    return 0
  else
    let stderr ← IO.getStderr
    stderr.putStrLn s!"error: {error.message}"
    stderr.putStrLn usage
    return 2

/-- What the environment gives for the options of a rendering. -/
def readEnvironment : IO Environment := do
  let views ← IO.getEnv "ZT_VIEWS_DIR"
  let fallback ← IO.getEnv "ZT_FALLBACK"
  return ⟨views.map String.toList, fallback.map String.toList⟩

/-- Runs the command that the arguments name. -/
def runCommand (arguments : List String) : IO UInt32 := do
  match Request.read (← readEnvironment) (arguments.map String.toList) with
  | .error error => refuse error
  | .ok .version =>
    (← IO.getStdout).putStrLn version
    return 0
  | .ok (.render given) => finish (RenderCommand.run (← readFiles given.paths) given)
  | .ok (.check given) => finish (CheckCommand.run (← readFiles given.paths) given)

end Stencil

/-- The command line of the program. -/
def main (arguments : List String) : IO UInt32 :=
  Stencil.runCommand arguments
