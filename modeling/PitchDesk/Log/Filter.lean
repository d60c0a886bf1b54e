import PitchDesk.Log.Directive

/-!
# Log filters

Directives with commas between them, for the whole program. The filter may be asked for; else it
keeps the messages of the program at a level, and of all others only the warnings.
-/

namespace PitchDesk.Log

/-- The parts of the program that have log levels of their own. -/
def ownTargets : List String :=
  ["vendorhub", "vendorhub_app", "vendorhub_api", "vendorhub_store", "vendorhub_tui"]

/-- The filter to use: the one that was asked for unless it is blank, or else the one for a
level. -/
def filter (asked : Option String) (level : String) : String :=
  match (asked.map Text.trim).filter (!·.isEmpty) with
  | some filter => filter
  | none => ownTargets.foldl (fun filter target ↦ filter ++ "," ++ target ++ "=" ++ level) "warn"

/-- Reads the directives of a filter in order. Empty ones do not count. -/
def readFilter (filter : String) : Except DirectiveError (List Rule) :=
  ((Path.pieces ',' filter.toList).filter (!·.isEmpty)).mapM fun text ↦
    (Directive.ofList text).read

/-- The message that the program starts with. -/
def starting : Message := ⟨"vendorhub", ["message", "config"], .info⟩

end PitchDesk.Log
