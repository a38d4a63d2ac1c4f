/-
This file loads templates from the files below a directory. A name is a path that
must stay below it. What was read once is remembered under the name as it was
asked for, if the source remembers at all, and then answers that name without a
look at the files; a name that could not be loaded is looked up afresh every time.
-/

import Stencil.Source.Load

namespace Stencil

/-- The templates below a directory. -/
structure DirectorySource where
  root : Text
  /-- Whether what was read is remembered. -/
  caching : Bool
  /-- The templates read so far under their names. -/
  cache : Fields Text

namespace DirectorySource

/-- The templates below a directory, of which none has been read. -/
def ofRoot (root : Text) (caching : Bool) : DirectorySource :=
  ⟨root, caching, []⟩

/-- The path of the file of a name. -/
def path? (source : DirectorySource) (name : Text) : Except LoadError Text :=
  if FilePath.staysInside name then .ok (FilePath.join source.root name)
  else .error (.invalidName name)

/-- What the file of a name holds. -/
def readFile (files : Files) (source : DirectorySource) (name : Text) : Except LoadError Text :=
  match source.path? name with
  | .error error => .error error
  | .ok path =>
    match files path with
    | .ok template => .ok template
    | .error .missing => .error (.notFound name)
    | .error fault => .error (.unreadable path fault)

/-- What is remembered under a name. -/
def remembered? (source : DirectorySource) (name : Text) : Option Text :=
  if source.caching then source.cache.lookup name else none

/-- The source with a template remembered, if it remembers. -/
def remember (source : DirectorySource) (name template : Text) : DirectorySource :=
  if source.caching then { source with cache := source.cache.put name template } else source

/-- The template of a name, remembered or read from its file, and the source afterwards. -/
def load (files : Files) (source : DirectorySource) (name : Text) :
    Except LoadError Text × DirectorySource :=
  match source.remembered? name with
  | some template => (.ok template, source)
  | none =>
    match source.readFile files name with
    | .ok template => (.ok template, source.remember name template)
    | .error error => (.error error, source)

/-- The source with nothing remembered. -/
def clearCache (source : DirectorySource) : DirectorySource :=
  { source with cache := [] }

/-- The number of templates remembered. -/
def cachedSize (source : DirectorySource) : Nat :=
  source.cache.length

end DirectorySource

/-- A directory of templates with the files as they are at one moment. -/
structure MountedDirectory where
  files : Files
  source : DirectorySource

instance : TemplateSource MountedDirectory where
  load mounted name :=
    let (loaded, source) := mounted.source.load mounted.files name
    (loaded, { mounted with source := source })

end Stencil
