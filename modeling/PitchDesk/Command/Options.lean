import PitchDesk.Text.Quoted

/-!
# Command line options

What the arguments of the command ask for. An option with a value takes the next argument, whatever
it looks like; of an option that is given twice the last value counts.
-/

namespace PitchDesk.Command

/-- What the arguments ask for. -/
structure Options where
  configPath : String
  email : Option String := none
  printsConfigPath : Bool := false
  printsDatabasePath : Bool := false
  printsTemplate : Bool := false
  checksOnly : Bool := false
  showsHelp : Bool := false
  deriving DecidableEq, Repr

/-- Why the arguments are not accepted. -/
inductive OptionsError where
  | noPath
  | noAddress
  | unknown (argument : String)
  deriving DecidableEq, Repr

/-- The wording of each cause. -/
def OptionsError.message : OptionsError → String
  | .noPath => "--config requires a file path"
  | .noAddress => "--email requires an address"
  | .unknown argument =>
    "unknown argument " ++ Text.quoted argument ++ "; run with --help to see supported options"

namespace Options

/-- An option without a value, switched on; nothing if there is no such option. -/
def switch? (o : Options) : String → Option Options
  | "--print-config-path" => some { o with printsConfigPath := true }
  | "--print-path" => some { o with printsDatabasePath := true }
  | "--print-example-config" => some { o with printsTemplate := true }
  | "--check" => some { o with checksOnly := true }
  | "--help" => some { o with showsHelp := true }
  | "-h" => some { o with showsHelp := true }
  | _ => none

/-- Adds what arguments ask for to what was asked for before them. -/
def readFrom (o : Options) : List String → Except OptionsError Options
  | [] => .ok o
  | argument :: rest =>
    if argument = "--config" then
      match rest with
      | path :: rest => readFrom { o with configPath := path } rest
      | [] => .error .noPath
    else if argument = "--email" then
      match rest with
      | email :: rest => readFrom { o with email := some email } rest
      | [] => .error .noAddress
    else
      match o.switch? argument with
      | some o => readFrom o rest
      | none => .error (.unknown argument)

/-- Reads the arguments, where `configPath` is taken unless they give a path. -/
def read (configPath : String) (arguments : List String) : Except OptionsError Options :=
  readFrom { configPath := configPath } arguments

/-- What the command says about its options. -/
def help : String :=
  String.intercalate "\n"
    ["vendorhub",
     "  --config <path>          Use a specific config path",
     "  --email <addr>           Sign in as this account (password from VENDORHUB_PASSWORD)",
     "  --print-config-path      Print resolved config path",
     "  --print-path             Print resolved settings database path",
     "  --print-example-config   Print a v1 config template",
     "  --check                  Validate config + settings DB + API client setup",
     "  --help                   Show this help",
     ""]

end Options

end PitchDesk.Command
