import PitchDesk.File.Tree

/-!
# The place of a database file

The path of a database is read as a text, and not followed: two dots take back the name before them,
even one that leads nowhere. Yet no name may be too long, nor stand below a file. The path from the
root, that of the working directory included, may not be too long either: neither on the way, nor in
the end, where room must be left for the name of the journal.
-/

namespace PitchDesk

namespace Location

/-- The most bytes that the path from the root may have on the way to a database. -/
def wayLimit : Nat := 511

/-- The most bytes that the path from the root to a database may have. -/
def pathLimit : Nat := 504

/-- The names on the way from the root to a place. -/
def fromRoot (files : FileTree) : List String → List String
  | "/" :: names => names
  | names =>
    let directory := (Path.components files.directory).map String.ofList
    names.foldl (fun way name ↦ if name = ".." then way.dropLast else way ++ [name]) directory

/-- The bytes of the path from the root to a place, with a slash before each name. -/
def pathSize (files : FileTree) (place : List String) : Nat :=
  (fromRoot files place).foldl (fun size name ↦ size + 1 + name.utf8ByteSize) 0

/-- Whether a name can be added to a place. Where nothing stands every name can be. -/
def mayHold (files : FileTree) (place : List String) (name : String) : Bool :=
  pathSize files (place ++ [name]) ≤ wayLimit &&
    match files.at? place with
    | none => true
    | some .directory => name.utf8ByteSize ≤ FileTree.nameLimit
    | some (.file _) => false

/-- The place that the names of a path spell out from a place. -/
def spelled? (files : FileTree) (place : List String) : List (List Char) → Option (List String)
  | [] => some place
  | name :: names =>
    if Path.isIdle name then spelled? files place names
    else if name = ['.', '.'] then spelled? files (FileTree.above place) names
    else
      let name := String.ofList name
      if mayHold files place name then spelled? files (place ++ [name]) names else none

/-- The place of the database file at a path: its directory must be there, it must not be a
directory itself, and its path must leave room for the journal. -/
def place? (files : FileTree) (path : String) : Option (List String) := do
  let (start, names) := files.route path
  let place ← spelled? files start names
  if !files.isDirectory place && files.isDirectory place.dropLast &&
      pathSize files place ≤ pathLimit then return place
  failure

end Location

end PitchDesk
