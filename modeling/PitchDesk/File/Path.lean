import PitchDesk.Text.Blank

/-!
# File paths

The parts of a path text. Slashes separate the components; empty components and single dots do not
count. The last component is the file name, unless it is two dots.

Paths are texts, and taking them apart asks nothing of the file system: whether a component is
there, and what two dots lead back to, is for `FileTree` to say.
-/

namespace PitchDesk

namespace Path

/-- The pieces of a list between the occurrences of a separator. -/
def pieces (separator : Char) : List Char → List (List Char)
  | [] => [[]]
  | c :: cs =>
    if c = separator then [] :: pieces separator cs
    else
      match pieces separator cs with
      | [] => [[c]]
      | p :: ps => (c :: p) :: ps

/-- A piece of a path that does not count: nothing or a single dot. -/
def isIdle (piece : List Char) : Bool :=
  piece == [] || piece == ['.']

/-- The components of a path that count. -/
def components (path : String) : List (List Char) :=
  (pieces '/' path.toList).filter (!isIdle ·)

/-- The last component of a path, if it names a file. -/
def fileName? (path : String) : Option String :=
  match (components path).getLast? with
  | some name => if name = ['.', '.'] then none else some (String.ofList name)
  | none => none

/-- What follows the last dot of a file name. A name whose only dot is its first character has no
extension. -/
def extension? (path : String) : Option String := do
  let name := (← fileName? path).toList
  let extension := Text.afterLast '.' name
  if extension.length + 1 < name.length then some (String.ofList extension) else none

/-- A path without its last component. -/
def parent (path : String) : String :=
  let all := pieces '/' path.toList
  let rest := Text.dropEndWhile isIdle (Text.dropEndWhile isIdle all).dropLast
  if (components path).isEmpty then ""
  else if rest.isEmpty then
    match all with
    | [] :: _ :: _ => "/"
    | ['.'] :: _ => "."
    | _ => ""
  else String.ofList (['/'].intercalate rest)

/-- A path and the paths of the directories on the way to it, which has fewer components each
time. -/
def upward (path : String) : List String :=
  (List.range (components path).length).map fun k ↦ Nat.repeat parent k path

/-- The path of a name in the directory at a path. -/
def join (path name : String) : String :=
  if path.isEmpty || path.toList.getLast? == some '/' then path ++ name else path ++ "/" ++ name

/-- A path with its file name replaced; a path without one gets the name added. -/
def withFileName (path name : String) : String :=
  join (if (fileName? path).isSome then parent path else path) name

end Path

end PitchDesk
