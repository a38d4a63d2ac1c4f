/-
This file holds the files that templates are read from. A disk says for every place
what stands there, a file with its bytes or a directory; a place is the row of
names that leads to it from the working directory. Resolving a path follows its
parts as an operating system does: only a directory can be passed through, also
by a part that stays where it is, and a name has a greatest length. What lies
above the working directory is not held: there is a directory, but no name in it
is known.
-/

import Stencil.Source.FilePath

namespace Stencil

/-- The names that lead to a place from the working directory. -/
abbrev Place := List Text

/-- What stands at a place. -/
inductive Entry where
  | file (bytes : ByteArray)
  | directory

/-- Why a file cannot be read. -/
inductive ReadFault where
  | missing
  | notADirectory
  | isADirectory
  | nameTooLong
  | notUtf8
  | nulInName
  /-- Another reason, as the operating system words it. -/
  | other (reason : String)
  deriving DecidableEq, Repr

/-- The text that reports why a file cannot be read. -/
def ReadFault.message : ReadFault → String
  | .missing => "No such file or directory (os error 2)"
  | .notADirectory => "Not a directory (os error 20)"
  | .isADirectory => "Is a directory (os error 21)"
  | .nameTooLong => "File name too long (os error 36)"
  | .notUtf8 => "stream did not contain valid UTF-8"
  | .nulInName => "file name contained an unexpected NUL byte"
  | .other reason => reason

/-- What reading the file at a path gives, at one moment. -/
abbrev Files := Text → Except ReadFault Text

/-- The text that bytes encode in UTF-8. -/
def decodeUtf8 (bytes : ByteArray) : Except ReadFault Text :=
  match String.fromUTF8? bytes with
  | some content => .ok content.toList
  | none => .error .notUtf8

/-- What stands at every place but the working directory, which is always there. -/
structure Disk where
  entry? : Place → Option Entry

namespace Disk

/-- A disk without files. -/
def empty : Disk :=
  ⟨fun _ => none⟩

/-- The disk with another entry at one place. -/
def set (disk : Disk) (place : Place) (entry : Option Entry) : Disk :=
  ⟨fun other => if other = place then entry else disk.entry? other⟩

/-- A place that is held, or one outside of the working directory. -/
inductive Spot where
  | inside (place : Place)
  | outside

/-- What stands at a spot. -/
def at? (disk : Disk) : Spot → Option Entry
  | .inside [] => some .directory
  | .inside place => disk.entry? place
  | .outside => some .directory

/-- The greatest length of a name, and of a path, in bytes. -/
def longestName : Nat := 255

@[inherit_doc longestName]
def longestPath : Nat := 4095

/-- The spot that a part of a path leads to, whether or not anything stands there. -/
def follow (spot : Spot) (part : Text) : Except ReadFault Spot :=
  if FilePath.isIdle part then .ok spot
  else if part = FilePath.up then
    match spot with
    | .inside [] => .ok .outside
    | .inside place => .ok (.inside place.dropLast)
    | .outside => .ok .outside
  else if longestName < part.size then .error .nameTooLong
  else
    match spot with
    | .inside place => .ok (.inside (place ++ [part]))
    | .outside => .error .missing

/-- The spot where something stands that a part of a path leads to from another. -/
def step (disk : Disk) (spot : Spot) (part : Text) : Except ReadFault Spot :=
  match disk.at? spot with
  | some .directory =>
    match follow spot part with
    | .error fault => .error fault
    | .ok next => if (disk.at? next).isSome then .ok next else .error .missing
  | some (.file _) => .error .notADirectory
  | none => .error .missing

/-- The spot that parts of a path lead to from another. -/
def walk (disk : Disk) (spot : Spot) : List Text → Except ReadFault Spot
  | [] => .ok spot
  | part :: rest =>
    match disk.step spot part with
    | .error fault => .error fault
    | .ok next => walk disk next rest

/-- Where a path starts. -/
def start (path : Text) : Spot :=
  if FilePath.isAbsolute path then .outside else .inside []

/-- The fault of a path that names no file by its spelling alone. -/
def spellingFault? (path : Text) : Option ReadFault :=
  if '\x00' ∈ path then some .nulInName
  else if path = [] then some .missing
  else if longestPath < path.size then some .nameTooLong
  else none

/-- The spot that a path leads to. -/
def resolve (disk : Disk) (path : Text) : Except ReadFault Spot :=
  match spellingFault? path with
  | some fault => .error fault
  | none => disk.walk (start path) (FilePath.parts path)

/-- The text of the file at a path. -/
def read (disk : Disk) : Files := fun path =>
  match disk.resolve path with
  | .error fault => .error fault
  | .ok spot =>
    match disk.at? spot with
    | some (.file bytes) => decodeUtf8 bytes
    | some .directory => .error .isADirectory
    | none => .error .missing

/-! ### Changes -/

/-- The disk with the directories made that parts of a path pass through, and the spot they
lead to; none when a file or a name stands in the way. -/
def makeParts (disk : Disk) (spot : Spot) : List Text → Disk × Option Spot
  | [] => (disk, some spot)
  | part :: rest =>
    match follow spot part with
    | .error _ => (disk, none)
    | .ok next =>
      match disk.at? next, next with
      | some .directory, _ => makeParts disk next rest
      | none, .inside place => makeParts (disk.set place (some .directory)) next rest
      | _, _ => (disk, none)

/-- Whether a path leads to a directory. -/
def isDirectory (disk : Disk) (path : Text) : Bool :=
  match disk.resolve path with
  | .error _ => false
  | .ok spot =>
    match disk.at? spot with
    | some .directory => true
    | _ => false

/-- The disk with a directory made, and those it stands in, and whether that was possible. A
path that ends in a point names a directory that is there: only those it stands in are made. -/
def makeDirectory (disk : Disk) (path : Text) : Disk × Bool :=
  let parts := FilePath.moving (FilePath.parts path)
  if '\x00' ∈ path ∨ longestPath < path.size then (disk, false)
  else if FilePath.endsInPoint (FilePath.parts path) then
    let (made, _) := disk.makeParts (start path) parts.dropLast
    (made, made.isDirectory path)
  else
    let (made, spot) := disk.makeParts (start path) parts
    (made, spot.isSome)

/-- The disk with a file written, and the directories made that it stands in. Nothing is
written where a directory stands. -/
def write (disk : Disk) (path : Text) (bytes : ByteArray) : Disk :=
  let parts := FilePath.parts path
  match disk.makeParts (start path) (FilePath.moving parts).dropLast, parts.getLast? with
  | (made, some (.inside place)), some name =>
    if FilePath.isIdle name || name = FilePath.up || longestName < name.size then made
    else
      match made.at? (.inside (place ++ [name])) with
      | some .directory => made
      | _ => made.set (place ++ [name]) (some (.file bytes))
  | (made, _), _ => made

/-- The disk without the file at a path, and whether there was one. -/
def remove (disk : Disk) (path : Text) : Disk × Bool :=
  match disk.resolve path with
  | .ok (.inside place) =>
    match disk.at? (.inside place) with
    | some (.file _) => (disk.set place none, true)
    | _ => (disk, false)
  | _ => (disk, false)

end Disk

end Stencil
