/-
This file follows a directory of templates through a run of operations: loads and
renderings, which only read the files, and changes of the files and of what is
remembered between them.
-/

import Stencil.Source.Directory
import Stencil.Source.Views

namespace Stencil

/-- A directory of templates, the files it reads and the fallback of its views. -/
structure Session where
  disk : Disk
  source : DirectorySource
  fallback : Text

/-- What can be asked of a directory of templates, or done to its files. -/
inductive Operation where
  /-- The source is asked for a template. -/
  | load (name : Text)
  /-- The views are asked for a template. -/
  | loadView (name : Text)
  | render (name : Text) (context : Json)
  | renderValue (name : Text) (context : Value)
  | clearCache
  | write (path : Text) (bytes : ByteArray)
  | remove (path : Text)
  | makeDirectory (path : Text)

/-- What an operation answers. -/
inductive Answer where
  | loaded (result : Except LoadError Text)
  | rendered (result : Except InvalidContext Text)
  | page (output : Text)
  | done
  | succeeded (worked : Bool)

namespace Session

/-- A session in which nothing has been read. -/
def start (disk : Disk) (root : Text) (caching : Bool) (fallback : Text) : Session :=
  ⟨disk, .ofRoot root caching, fallback⟩

/-- The views of a session, over the files as they are now. -/
def views (session : Session) : Views MountedDirectory :=
  ⟨⟨session.disk.read, session.source⟩, session.fallback⟩

/-- The session with the source that views were left with. -/
def leave (session : Session) (views : Views MountedDirectory) : Session :=
  { session with source := views.source.source }

/-- What an operation answers, and the session afterwards. -/
def run (session : Session) : Operation → Answer × Session
  | .load name =>
    let (result, after) := session.source.load session.disk.read name
    (.loaded result, { session with source := after })
  | .loadView name =>
    let (result, after) := session.views.load name
    (.loaded result, session.leave after)
  | .render name context =>
    let (result, after) := session.views.render name context
    (.rendered result, session.leave after)
  | .renderValue name context =>
    let (output, after) := session.views.renderValue name context
    (.page output, session.leave after)
  | .clearCache => (.done, { session with source := session.source.clearCache })
  | .write path bytes => (.done, { session with disk := session.disk.write path bytes })
  | .remove path =>
    let (disk, worked) := session.disk.remove path
    (.succeeded worked, { session with disk := disk })
  | .makeDirectory path =>
    let (disk, worked) := session.disk.makeDirectory path
    (.succeeded worked, { session with disk := disk })

/-- The session after a run of operations. -/
def runAll (session : Session) (operations : List Operation) : Session :=
  operations.foldl (fun current operation => (current.run operation).2) session

end Session

end Stencil
