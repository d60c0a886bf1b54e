import PitchDesk.Command.Credentials
import PitchDesk.Command.Machine
import PitchDesk.Command.Options
import PitchDesk.Config
import PitchDesk.Log.Filter

/-!
# Starting the command

What the command does before the first screen: it reads its arguments and its configuration, opens
the log and the settings database, and signs in. Each step can fail, and what was done before stays
done. With `--check` it stops before it signs in; the stored settings have not been read by then.

## Failures, and ends without one

A step that fails gives a `StartError`, which is told with all its causes and ends the command.
Reading a duration can also end the program on the spot, when a product is too great for a word;
such an end is no failure that anybody reports, and `StartError.aborts` tells it apart, so that the
command ends by `Ending.abort` and not with a message of its own. The failures come in the order of
the steps, and with `--check` the command goes through the same steps up to signing in.
-/

namespace PitchDesk.Command

/-- Why the command ends without a session. -/
inductive StartError where
  | noConfigDirectory
  | configDirectory (path : String) (cause : FileError)
  | options (cause : OptionsError)
  | configFile (path : String) (cause : FileError)
  | config (path : String) (cause : ConfigError)
  | noDataDirectory
  | dataDirectory (path : String) (cause : FileError)
  | logDirectory (path : String) (cause : FileError)
  | logFile (path : String) (cause : FileError)
  | logFilter (filter : String) (cause : Log.DirectiveError)
  | openStore (path : String) (cause : StoreError)
  | readStore (cause : StoreError)
  | writeStore (cause : StoreError)
  | timeout (cause : DurationError)
  | baseUrl (path : String) (cause : BaseUrlError)
  | menuCacheTtl (cause : Config.LifetimeError)
  | credentials (cause : CredentialsError)
  | signIn (cause : ServiceError)
  deriving DecidableEq, Repr

/-- What stands before each failure to load a configuration file. -/
def loading (path : String) : String :=
  "load config " ++ path ++
    "; run `vendorhub --print-example-config` to generate a v1 template: "

/-- The wording of each cause, with what caused it. -/
def StartError.message : StartError → String
  | .noConfigDirectory =>
    "cannot resolve config directory; set VENDORHUB_CONFIG_PATH to the config file"
  | .configDirectory path cause => "create config directory " ++ path ++ ": " ++ cause.message
  | .options cause => cause.message
  | .configFile path cause =>
    loading path ++ "read config file " ++ path ++ ": " ++ cause.message
  | .config path cause => loading path ++ cause.message path
  | .noDataDirectory =>
    "cannot resolve data directory; set VENDORHUB_DB_PATH to a writable database path"
  | .dataDirectory path cause => "create data directory " ++ path ++ ": " ++ cause.message
  | .logDirectory path cause => "create log directory " ++ path ++ ": " ++ cause.message
  | .logFile path cause => "open log file " ++ path ++ ": " ++ cause.message
  | .logFilter filter cause =>
    "invalid log filter " ++ Text.quoted filter ++
      "; check VENDORHUB_LOG or [log].level: " ++ cause.message
  | .openStore path cause =>
    "open settings database " ++ path ++ " -- if this path is wrong, set [storage].db_path or " ++
      "VENDORHUB_DB_PATH: " ++ cause.full
  | .readStore cause => cause.full
  | .writeStore cause => cause.full
  | .timeout cause => cause.message
  | .baseUrl path cause =>
    "invalid [api] config in " ++ path ++ "; fix base_url/timeout values: " ++ cause.full
  | .menuCacheTtl cause => cause.message
  | .credentials cause => cause.message
  | .signIn cause => "sign in: " ++ cause.message

/-- Whether the command does not report this, because it ends on the spot. -/
def StartError.aborts : StartError → Bool
  | .config _ cause => cause.aborts
  | .timeout cause => cause.aborts
  | .menuCacheTtl cause => cause.aborts
  | _ => false

/-- A step of the command. -/
abbrev Step : Type → Type := ExceptT StartError (StateM Machine)

namespace Step

/-- A step that fails or goes on. -/
def orFail {ε α : Type} (wrap : ε → StartError) (r : Except ε α) : Step α :=
  match r with
  | .ok a => pure a
  | .error e => throw (wrap e)

/-- A step that changes the surroundings, also when it fails. -/
def change {ε α : Type} (wrap : ε → StartError) (f : Machine → Except ε α × Machine) : Step α := do
  let (r, m) := f (← get)
  set m
  orFail wrap r

/-- Makes a directory and those on the way to it. -/
def ensureDirectories (wrap : FileError → StartError) (path : String) : Step Unit :=
  change wrap fun m ↦
    let (failure, m) := m.ensureDirectories path
    (match failure with
    | some e => .error e
    | none => .ok (), m)

/-- The value of a variable. -/
def environment? (name : String) : Step (Option String) :=
  return (← get).environment? name

/-- A directory of the user, given by a variable if that holds a path from the root, or else below
the home directory. -/
def userDirectory (name inHome : String) (missing : StartError) : Step String := do
  match (← environment? name).filter (·.toList.head? = some '/'), ← environment? "HOME" with
  | some path, _ => return path
  | none, some home => return Path.join home inHome
  | none, none => throw missing

/-- The path of the configuration file unless the arguments give one. -/
def usualConfigPath : Step String := do
  match ← environment? "VENDORHUB_CONFIG_PATH" with
  | some path => return path
  | none =>
    let root ← userDirectory "XDG_CONFIG_HOME" ".config" .noConfigDirectory
    let directory := Path.join root "vendorhub"
    ensureDirectories (.configDirectory directory) directory
    return Path.join directory "config.toml"

/-- The path of the configuration file that is read. -/
def configPath (arguments : List String) : Step String := do
  return (← orFail .options (Options.read (← usualConfigPath) arguments)).configPath

/-- The path of the settings database unless the configuration gives one. -/
def usualDatabasePath : Step String := do
  match ← environment? "VENDORHUB_DB_PATH" with
  | some path => return path
  | none =>
    let root ← userDirectory "XDG_DATA_HOME" ".local/share" .noDataDirectory
    let directory := Path.join root "vendorhub"
    ensureDirectories (.dataDirectory directory) directory
    return Path.join directory "settings.db"

/-- The configuration at a path. Where there is no file nothing is given. -/
def loadConfig (path : String) : Step Config := do
  match (← get).file? path with
  | none => return {}
  | some .directory => throw (.configFile path .isDirectory)
  | some (.file content) =>
    match String.fromUTF8? content with
    | some text => orFail (.config path) (Config.read text)
    | none => throw (.config path .notToml)

/-- Opens the log, and notes there with which configuration the command starts. -/
def openLog (path level config : String) : Step Unit := do
  let directory := Path.parent path
  if !directory.isEmpty then
    ensureDirectories (.logDirectory directory) directory
  set (← orFail (.logFile path) ((← get).touch path))
  let filter := Log.filter (← environment? "VENDORHUB_LOG") level
  let rules ← orFail (.logFilter filter) (Log.readFilter filter)
  if Log.Rule.keep rules Log.starting then
    modify (·.append path (" INFO vendorhub: starting config=" ++ config ++ "\n"))

/-- Opens the settings database and makes its table. -/
def openStore (path : String) : Step Store := do
  let store ← change (.openStore path) (·.openStore path)
  let store ← orFail .readStore store.bootstrap
  modify (·.save store)
  return store

end Step

/-- What a session starts with. -/
structure SignedIn where
  session : Session
  client : Client
  store : Store
  menuCacheTtl : Duration
  pageSize : UInt32
  maxUploadBytes : Nat
  sidebarCollapsed : Bool
  deriving DecidableEq, Repr

/-- How the command goes on. -/
inductive Outcome where
  | printed (text : String)
  | checked
  | signedIn (start : SignedIn)
  deriving DecidableEq, Repr

namespace Step

/-- Signs in, and remembers the address. -/
def signIn (o : Options) (config : Config) (store : Store) (client : Client) (ttl : Duration) :
    Step Outcome := do
  let last ← orFail .readStore store.lastEmail?
  let form ← orFail .credentials (credentials o.email last (← environment? "VENDORHUB_PASSWORD"))
  let session ← orFail .signIn (client.perform (← get).send (client.login form))
  -- an address is remembered once the service has accepted it
  let store ← orFail .writeStore (store.putLastEmail form.email)
  modify (·.save store)
  let collapsed ← orFail .readStore store.sidebarCollapsed?
  return .signedIn {
    session := session
    client := { client with token := some session.token }
    store := store
    menuCacheTtl := ttl
    pageSize := config.pageSize
    maxUploadBytes := config.maxUploadBytes
    sidebarCollapsed := collapsed.getD config.sidebarCollapsed }

/-- Does everything that comes before the first screen. -/
def start (arguments : List String) : Step Outcome := do
  let o ← orFail .options (Options.read (← usualConfigPath) arguments)
  if o.showsHelp then return .printed Options.help
  if o.printsConfigPath then return .printed (o.configPath ++ "\n")
  if o.printsTemplate then return .printed (Config.template o.configPath)
  -- everything above is printed whatever the configuration holds
  let config ← loadConfig o.configPath
  let database ← match config.databasePath? with
    | some path => pure path
    | none => usualDatabasePath
  if o.printsDatabasePath then return .printed (database ++ "\n")
  openLog (config.logFile database) config.logLevel o.configPath
  let store ← openStore database
  -- the timeout is only checked here, so a fault of the database is told before one of it
  let _ ← orFail .timeout config.timeout
  let client ← orFail (.baseUrl o.configPath) (Client.new config.baseUrl)
  let ttl ← orFail .menuCacheTtl config.menuCacheTtl
  if o.checksOnly then return .checked
  signIn o config store client ttl

end Step

/-- How a command ends. -/
inductive Ending where
  | success
  | failure (message : String)
  /-- The program ends on the spot, with what it says of that. -/
  | abort (message : String)
  deriving DecidableEq, Repr

/-- The code that a command ends with. -/
def Ending.code : Ending → UInt32
  | .success => 0
  | .failure _ => 1
  | .abort _ => 101

/-- What is said at the end of a command, if anything is. -/
def Ending.message? : Ending → Option String
  | .success => none
  | .failure message | .abort message => some message

/-- How a command ends that comes upon a failure. What ends it on the spot is always a duration of
too many seconds, and nothing is said of where that was. -/
def StartError.ending (e : StartError) : Ending :=
  if e.aborts then .abort DurationError.overflow.message else .failure e.message

/-- What is left of a command: what it printed, and how it ended. -/
structure Report where
  output : String
  ending : Ending
  deriving DecidableEq, Repr

/-- Runs the command without a terminal, so that no session can be shown. -/
def run (arguments : List String) (m : Machine) : Report × Machine :=
  match (Step.start arguments).run m with
  | (.ok (.printed text), m) => (⟨text, .success⟩, m)
  | (.ok .checked, m) => (⟨"", .success⟩, m)
  | (.ok (.signedIn _), m) => (⟨"", .failure ("enable raw mode: " ++ m.noTerminal)⟩, m)
  | (.error e, m) => (⟨"", e.ending⟩, m)

end PitchDesk.Command
