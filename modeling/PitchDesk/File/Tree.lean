import PitchDesk.File.Path

/-!
# Files of a directory

The files that paths lead to from a working directory. A path is followed component by component:
two dots lead back to the directory above, and only the last component may be something else than a
directory. A path that ends in a slash leads to a directory.

A *place* is where a path leads to, as the names on the way there. Places begin in the working
directory, with two dots for each directory that they lie above it, or with a slash at the root. Of
what lies outside the working directory only the directories above it and the root are known.

How paths are followed, and what is said where that fails, is the behaviour of the operating system
and not of the program. Results on what files lead to rest on it.
-/

namespace PitchDesk

/-- Why a file or a directory cannot be found, made or opened. -/
inductive FileError where
  | missing
  | occupied
  | notDirectory
  | isDirectory
  | tooLong
  | nul
  deriving DecidableEq, Repr

/-- The wording of each cause. -/
def FileError.message : FileError → String
  | .missing => "No such file or directory (os error 2)"
  | .occupied => "File exists (os error 17)"
  | .notDirectory => "Not a directory (os error 20)"
  | .isDirectory => "Is a directory (os error 21)"
  | .tooLong => "File name too long (os error 36)"
  | .nul => "file name contained an unexpected NUL byte"

/-- A directory, or a file with its content. -/
inductive FileNode where
  | directory
  | file (content : ByteArray)

/-- Files, by their places. Directories on the way to a file need no entry of their own. -/
structure FileTree where
  /-- The path of the working directory. -/
  directory : String
  entries : List (List String × FileNode)

namespace FileTree

/-- A working directory without files. -/
def empty (directory : String) : FileTree := ⟨directory, []⟩

/-- Puts a file or a directory at a place. -/
def put (t : FileTree) (place : List String) (node : FileNode) : FileTree :=
  { t with entries := (place, node) :: t.entries.filter (·.1 != place) }

/-- Adds a file at a path in the working directory. -/
def insert (t : FileTree) (path : String) (node : FileNode) : FileTree :=
  t.put ((Path.components path).map String.ofList) node

/-- The place of the root. -/
def root : List String := ["/"]

/-- The directory above a place. Nothing is above the root. -/
def above (place : List String) : List String :=
  if place = root then root
  else if place.all (· == "..") then place ++ [".."]
  else place.dropLast

/-- What stands at a place. -/
def at? (t : FileTree) (place : List String) : Option FileNode :=
  match t.entries.find? (·.1 == place) with
  | some e => some e.2
  | none =>
    if place = root ∨ place.all (· == "..") ∨ t.entries.any (place.isPrefixOf ·.1) then
      some .directory
    else none

/-- Whether a directory stands at a place. -/
def isDirectory (t : FileTree) (place : List String) : Bool :=
  match t.at? place with
  | some .directory => true
  | _ => false

/-! ### Following paths -/

/-- The most bytes in the name of a file. -/
def nameLimit : Nat := 255

/-- The most bytes in a path that is followed. -/
def pathLimit : Nat := 4095

/-- The place from which a path is followed, and the names on it. -/
def route (t : FileTree) (path : String) : List String × List (List Char) :=
  match Text.dropPrefix? (t.directory ++ "/").toList path.toList with
  | some rest => ([], Path.pieces '/' rest)
  | none => (if path.toList.head? = some '/' then root else [], Path.pieces '/' path.toList)

/-- Follows one name from a place. -/
def enter (t : FileTree) (place : List String) (name : List Char) :
    Except FileError (List String) :=
  if !t.isDirectory place then .error .notDirectory
  else if Path.isIdle name then .ok place
  else if name = ['.', '.'] then .ok (above place)
  else
    let next := place ++ [String.ofList name]
    if nameLimit < (String.ofList name).utf8ByteSize then .error .tooLong
    else if (t.at? next).isSome then .ok next
    else .error .missing

/-- Checks that a path can be followed at all. -/
def checkPath (path : String) : Except FileError Unit :=
  if path.toList.contains '\x00' then .error .nul
  else if path.isEmpty then .error .missing
  else if pathLimit < path.utf8ByteSize then .error .tooLong
  else .ok ()

/-- The place that a path leads to. -/
def locate (t : FileTree) (path : String) : Except FileError (List String) := do
  checkPath path
  let (start, names) := t.route path
  names.foldlM t.enter start

/-- What a path leads to. -/
def get? (t : FileTree) (path : String) : Option FileNode :=
  match t.locate path with
  | .ok place => t.at? place
  | .error _ => none

/-- The content of the file that a path leads to. -/
def read? (t : FileTree) (path : String) : Option ByteArray :=
  match t.get? path with
  | some (.file content) => some content
  | _ => none

/-- The size of the file that a path leads to. -/
def size? (t : FileTree) (path : String) : Option Nat :=
  (t.read? path).map (·.size)

end FileTree

end PitchDesk
