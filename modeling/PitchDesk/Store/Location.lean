import PitchDesk.Text.Alphabetic
import PitchDesk.Text.Blank
import PitchDesk.Text.Quoted

/-!
# Where settings are kept

The settings database is a file, or is kept in memory. What looks like a URI is not taken for a
file: neither a scheme of letters before `://`, nor `file:`, nor anything with a question mark.

The check looks at the text of the path alone and asks nothing of the file system, so it can be
made when a configuration is read. What counts as a letter is what Unicode counts as alphabetic.
-/

namespace PitchDesk

/-- Why a text is not taken for the path of a database. -/
inductive LocationError where
  | empty
  | uri (path scheme : String)
  | fileUri (path : String)
  | query (path : String)
  deriving DecidableEq, Repr

/-- The wording of each cause. -/
def LocationError.message : LocationError → String
  | .empty => "database path must not be empty"
  | .uri path scheme =>
    "database path " ++ Text.quoted path ++ " looks like a URI (" ++ scheme ++
      "://); pass a filesystem path instead"
  | .fileUri path =>
    "database path " ++ Text.quoted path ++ " uses file: URI syntax; pass a plain filesystem path"
  | .query path => "database path " ++ Text.quoted path ++ " contains '?'; use a plain file path"

namespace Location

/-- The path that stands for a database in memory. -/
def memory : String := ":memory:"

/-- What comes before the first `://`, if it is a scheme: one letter or more. -/
def scheme? (path : List Char) : Option (List Char) :=
  match Text.cutAt? [':', '/', '/'] path with
  | some (before, _) => if before ≠ [] ∧ before.all Text.isAlphabetic then some before else none
  | none => none

/-- Checks that a text is a path and not a URI. -/
def check (path : String) : Except LocationError Unit :=
  if path.isEmpty then .error .empty
  else if path = memory then .ok ()
  else
    match scheme? path.toList with
    | some scheme => .error (.uri path (String.ofList scheme))
    | none =>
      if (Text.dropPrefix? ['f', 'i', 'l', 'e', ':'] path.toList).isSome then
        .error (.fileUri path)
      else if path.toList.contains '?' then .error (.query path)
      else .ok ()

end Location

end PitchDesk
