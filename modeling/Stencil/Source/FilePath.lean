/-
This file reads the paths of files. A path is a row of parts between slashes; an
empty part and a single point stay where they are, two points go one directory
up, and every other part goes down. A path that begins with a slash starts at the
top of the file system. The components of a path are the top it may start at and
the steps it takes. Normalizing resolves a path by its parts alone, without
looking at any file.
-/

import Stencil.Text.Basic

namespace Stencil

namespace FilePath

/-- The part that stays in a directory. -/
def here : Text := ['.']

/-- The part that goes one directory up. -/
def up : Text := ['.', '.']

/-- The parts of a path between its slashes. -/
def parts (path : Text) : List Text :=
  path.splitOn '/'

/-- Whether a part stays where it is. -/
def isIdle (part : Text) : Bool :=
  part = [] || part = here

/-- The parts of a path up to the last one that goes anywhere. -/
def moving (parts : List Text) : List Text :=
  (parts.reverse.dropWhile isIdle).reverse

/-- Whether a path ends in a point, perhaps with slashes behind it. -/
def endsInPoint (parts : List Text) : Bool :=
  (parts.reverse.takeWhile isIdle).contains here

/-- Whether a path starts at the top of the file system. -/
def isAbsolute (path : Text) : Bool :=
  path.head? = some '/'

/-- A path below a directory, spelled as the two are given, with a slash between them where
none stands. -/
def join (directory path : Text) : Text :=
  if directory = [] ∨ directory.getLast? = some '/' then directory ++ path
  else directory ++ '/' :: path

/-! ### Components -/

/-- A component of a path. -/
inductive Component where
  /-- The top of the file system. -/
  | top
  /-- The directory that the path is looked up in, named by a point in front. -/
  | here
  /-- The step one directory up. -/
  | up
  /-- The step down to a name. -/
  | down (name : Text)
  deriving DecidableEq, Repr

/-- The step that a part takes, unless it stays where it is. -/
def step? (part : Text) : Option Component :=
  if isIdle part then none else if part = up then some .up else some (.down part)

/-- The components of a path. Of the parts that stay where they are only a point in front is
one. -/
def components (path : Text) : List Component :=
  let steps := (parts path).filterMap step?
  if isAbsolute path then .top :: steps
  else if (parts path).head? = some here then .here :: steps
  else steps

/-- Whether a component stays below the directory that the path is looked up in. -/
def Component.staysInside : Component → Bool
  | .here => true
  | .down _ => true
  | .top => false
  | .up => false

/-- Whether a path stays below the directory it is looked up in: it is not empty, and none of
its components leads out. -/
def staysInside (path : Text) : Bool :=
  path ≠ [] && (components path).all Component.staysInside

/-! ### Normal form -/

/-- The directories passed through, the last one last, after one more part. Above the top of
the file system there is nothing; elsewhere a step up with nothing to leave behind is kept. -/
def normalizeStep (absolute : Bool) (passed : List Text) (part : Text) : List Text :=
  if isIdle part then passed
  else if part ≠ up then passed ++ [part]
  else if passed ≠ [] ∧ passed.getLast? ≠ some up then passed.dropLast
  else if absolute then passed
  else passed ++ [up]

/-- The parts of a path that count once all that can be is resolved. -/
def normalize (path : Text) : List Text :=
  (parts path).foldl (normalizeStep (isAbsolute path)) []

end FilePath

end Stencil
