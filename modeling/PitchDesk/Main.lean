import PitchDesk.Command.Start

/-!
# The command

The outermost layer: it hands the arguments, the variables and the configuration file to the command
and prints what comes back. The service is never reached from here, and the settings database lives
only as long as the command.
-/

namespace PitchDesk.Command

/-- The variables that the command reads. -/
def variableNames : List String :=
  ["HOME", "XDG_CONFIG_HOME", "XDG_DATA_HOME", "VENDORHUB_CONFIG_PATH", "VENDORHUB_DB_PATH",
    "VENDORHUB_PASSWORD", "VENDORHUB_LOG"]

/-- The variables that are set. -/
def setVariables : IO (List (String × String)) :=
  variableNames.filterMapM fun name ↦ do
    return (← IO.getEnv name).map (name, ·)

/-- A machine with a file added to it, if that can be read. -/
def Machine.load (m : Machine) (path : String) : IO Machine := do
  try
    let content ← IO.FS.readBinFile path
    return { m with files := m.files.insert path (.file content) }
  catch _ => return m

/-- The machine that the command was started on. Paths from the root and relative ones are not told
apart. -/
def thisMachine (arguments : List String) : IO Machine := do
  let m : Machine :=
    { environment := ← setVariables
      files := .empty ""
      databases := []
      send := fun r ↦ .error (Client.unreachable r)
      noTerminal := "No such device or address (os error 6)" }
  match (Step.configPath arguments).run m with
  | (.ok path, _) => m.load path
  | (.error _, _) => return m

end PitchDesk.Command

/-- Runs the command. -/
def main (arguments : List String) : IO UInt32 := do
  let (report, _) := PitchDesk.Command.run arguments (← PitchDesk.Command.thisMachine arguments)
  IO.print report.output
  if let some message := report.ending.message? then
    IO.eprintln message
  return report.ending.code
