import PitchDesk.File.Tree

/-!
# Making directories and files

A directory or a file is made in a directory that is there already. Making a directory together with
those on the way to it stops at the first that cannot be made, and keeps those before.

Making several directories gives the tree afterwards beside the failure, because what was made
before a failure stays. A single directory or file is made whole or not at all, so there the tree
comes only where nothing fails.
-/

namespace PitchDesk

namespace FileTree

/-- The directory that the last component of a path is looked up in, with that component, and
whether slashes follow it. The root has no last component. -/
def lastStep (t : FileTree) (path : String) :
    Except FileError (List String × Option (List Char) × Bool) := do
  checkPath path
  let (start, names) := t.route path
  let bare := Text.dropEndWhile (·.isEmpty) names
  let place ← bare.dropLast.foldlM t.enter start
  if t.isDirectory place then return (place, bare.getLast?, bare.length < names.length)
  throw .notDirectory

/-- Whether a last component names a file, and not the directory itself or the one above. -/
def namesFile (name : List Char) : Bool :=
  !Path.isIdle name && name != ['.', '.']

/-- Makes one directory. -/
def makeDirectory (t : FileTree) (path : String) : Except FileError FileTree := do
  let (place, name, _) ← t.lastStep path
  match name.filter namesFile with
  | none => throw .occupied
  | some name =>
    match t.enter place name with
    | .ok _ => throw .occupied
    | .error .missing => return t.put (place ++ [String.ofList name]) .directory
    | .error e => throw e

/-- Makes a directory, which may be there already. -/
def ensureDirectory (t : FileTree) (path : String) : Except FileError FileTree :=
  match t.makeDirectory path, t.get? path with
  | .error .occupied, some .directory => .ok t
  | r, _ => r

/-- Makes the first of some directories, each of which lies in the next, and those of the others
that are missing. Also gives why it cannot be done. -/
def ensureNested (t : FileTree) : List String → Option FileError × FileTree
  | [] => (none, t)
  | path :: outer =>
    match t.ensureDirectory path with
    | .ok t => (none, t)
    | .error .missing =>
      match t.ensureNested outer with
      | (none, t) =>
        match t.ensureDirectory path with
        | .ok t => (none, t)
        | .error e => (some e, t)
      | stopped => stopped
    | .error e => (some e, t)

/-- Makes a directory and those on the way to it, as far as they are not there. -/
def ensureDirectories (t : FileTree) (path : String) : Option FileError × FileTree :=
  t.ensureNested (Path.upward path)

/-- Opens the file at a path for writing, and makes it if it is not there. -/
def touch (t : FileTree) (path : String) : Except FileError FileTree := do
  let (place, name, slashed) ← t.lastStep path
  match name.filter namesFile with
  | none => throw .isDirectory
  | some name =>
    if slashed then throw .isDirectory
    match t.enter place name with
    | .ok next => if t.isDirectory next then throw .isDirectory else return t
    | .error .missing => return t.put (place ++ [String.ofList name]) (.file .empty)
    | .error e => throw e

/-- Adds bytes to the end of the file that a path leads to, if there is one. -/
def append (t : FileTree) (path : String) (bytes : ByteArray) : FileTree :=
  match t.locate path with
  | .error _ => t
  | .ok place =>
    match t.at? place with
    | some (.file content) => t.put place (.file (content ++ bytes))
    | _ => t

end FileTree

end PitchDesk
