import PitchDesk.Duration
import PitchDesk.File.Path
import PitchDesk.Form
import PitchDesk.Store.Location
import PitchDesk.Toml.Reader
import PitchDesk.Url.Basic

/-!
# Configuration

What the configuration file says, each thing only if it is given. A configuration is checked when it
is read, and what is not given has a value of its own.

## Checked as it stands, asked as it is needed

Each part of a configuration has a check and a question of its own. The check looks at the text in
the file, the question gives a value, and they read the text separately, so that a text can be
accepted and still leave a question without an answer.
-/

namespace PitchDesk

/-- What a configuration file gives. -/
structure Config where
  baseUrl? : Option String := none
  timeout? : Option String := none
  pageSize? : Option UInt32 := none
  databasePath? : Option String := none
  maxUploadSize? : Option Int64 := none
  sidebarCollapsed? : Option Bool := none
  menuCacheTtl? : Option String := none
  logLevel? : Option String := none
  logFile? : Option String := none
  deriving DecidableEq, Repr

/-- Why a configuration file is not accepted. -/
inductive ConfigError where
  | notToml
  | unversioned
  | otherVersion (version : Int64)
  | undecodable
  | emptyBaseUrl
  | timeout (cause : DurationError)
  | timeoutNotPositive (raw : String)
  | pageSize (size : UInt32)
  | databasePath (cause : LocationError)
  | maxUploadSize (size : Int64)
  | menuCacheTtl (cause : DurationError)
  | logLevel (raw : String)
  deriving DecidableEq, Repr

/-- Whether the program ends where it comes upon this, instead of reporting it. -/
def ConfigError.aborts : ConfigError → Bool
  | .timeout cause | .menuCacheTtl cause => cause.aborts
  | _ => false

namespace Config

/-! ### What is taken where nothing is given -/

/-- The version that a file must have. -/
def version : Int64 := 1

/-- The address of a service on the same machine. -/
def defaultBaseUrl : String := "http://localhost:8080/api"

/-- How long the service may take to answer. -/
def defaultTimeout : String := "10s"

/-- How many rows a page has. -/
def defaultPageSize : UInt32 := 10

/-- How long a menu from the service stays good. -/
def defaultMenuCacheTtl : String := "30m"

/-- How much is logged. -/
def defaultLogLevel : String := "info"

/-- The most rows that a page may have. -/
def maxPageSize : UInt32 := 100

/-- The levels of logging. -/
def logLevels : List String := ["trace", "debug", "info", "warn", "error"]

/-! ### Decoding -/

/-- A text; dates and times may stand for their text. -/
def text? : Toml → Option String
  | .text s => some s
  | .moment s => some s
  | _ => none

/-- A truth value. -/
def boolean? : Toml → Option Bool
  | .boolean b => some b
  | _ => none

/-- An integer. -/
def integer? : Toml → Option Int64
  | .integer n => some n
  | _ => none

/-- An integer that is not negative and has at most 32 bits. -/
def size? (v : Toml) : Option UInt32 := do
  let n ← integer? v
  if 0 ≤ n.toInt ∧ n.toInt < UInt32.size then some (UInt32.ofNat n.toInt.toNat) else none

/-- What may be given: nothing, or a value that must have the right form. -/
def given? {α : Type} (decode? : Toml → Option α) : Option Toml → Option (Option α)
  | none => some none
  | some v => (decode? v).map some

/-- The values of a section under some keys. A section is a table, or an array that gives all of
them in order. -/
def section? (root : Toml.Members) (name : String) (keys : List String) :
    Option (List (Option Toml)) :=
  match root.get? name with
  | none => some (keys.map fun _ ↦ none)
  | some (.table _ ms) => some (keys.map (Toml.Members.get? ms))
  | some (.array items) => if items.length = keys.length then some (items.map some) else none
  | some _ => none

/-- Decodes the sections of a document. Whatever else it holds does not count. -/
def decode? (root : Toml.Members) : Option Config := do
  match ← section? root "api" ["base_url", "timeout", "page_size"],
    ← section? root "storage" ["db_path", "max_upload_size"],
    ← section? root "ui" ["sidebar_collapsed"],
    ← section? root "session" ["menu_cache_ttl"],
    ← section? root "log" ["level", "file"] with
  | [baseUrl, timeout, pageSize], [databasePath, maxUploadSize], [collapsed], [ttl],
      [level, file] =>
    return {
      baseUrl? := ← given? text? baseUrl
      timeout? := ← given? text? timeout
      pageSize? := ← given? size? pageSize
      databasePath? := ← given? text? databasePath
      maxUploadSize? := ← given? integer? maxUploadSize
      sidebarCollapsed? := ← given? boolean? collapsed
      menuCacheTtl? := ← given? text? ttl
      logLevel? := ← given? text? level
      logFile? := ← given? text? file }
  | _, _, _, _, _ => none

/-! ### Checking -/

/-- An address must not be blank. -/
def checkBaseUrl (c : Config) : Except ConfigError Unit :=
  match c.baseUrl? with
  | some url => if Text.isBlankText url then .error .emptyBaseUrl else .ok ()
  | none => .ok ()

/-- A time limit must be longer than none. -/
def checkTimeout (c : Config) : Except ConfigError Unit :=
  match c.timeout? with
  | none => .ok ()
  | some raw =>
    match Duration.read raw with
    | .error cause => .error (.timeout cause)
    | .ok d => if d.isPositive then .ok () else .error (.timeoutNotPositive raw)

/-- A page must have a row, and not too many. -/
def checkPageSize (c : Config) : Except ConfigError Unit :=
  match c.pageSize? with
  | some n => if 1 ≤ n ∧ n ≤ maxPageSize then .ok () else .error (.pageSize n)
  | none => .ok ()

/-- A database must not be given by a URI. -/
def checkDatabasePath (c : Config) : Except ConfigError Unit :=
  match c.databasePath? with
  | some path => (Location.check path).mapError .databasePath
  | none => .ok ()

/-- Uploads must be allowed some size. -/
def checkMaxUploadSize (c : Config) : Except ConfigError Unit :=
  match c.maxUploadSize? with
  | some n => if n ≤ 0 then .error (.maxUploadSize n) else .ok ()
  | none => .ok ()

/-- The lifetime of menus must be a duration. -/
def checkMenuCacheTtl (c : Config) : Except ConfigError Unit :=
  match c.menuCacheTtl? with
  | some raw =>
    match Duration.read raw with
    | .error cause => .error (.menuCacheTtl cause)
    | .ok _ => .ok ()
  | none => .ok ()

/-- A level must be one of the known levels, in upper or lower case. -/
def checkLogLevel (c : Config) : Except ConfigError Unit :=
  match c.logLevel? with
  | some raw =>
    if logLevels.contains (Text.lowerAscii (Text.trim raw)) then .ok () else .error (.logLevel raw)
  | none => .ok ()

/-- Checks what is given, in the order of the file's sections. -/
def check (c : Config) : Except ConfigError Unit := do
  c.checkBaseUrl
  c.checkTimeout
  c.checkPageSize
  c.checkDatabasePath
  c.checkMaxUploadSize
  c.checkMenuCacheTtl
  c.checkLogLevel

/-- Reads the text of a configuration file. -/
def read (text : String) : Except ConfigError Config :=
  match Toml.read? text with
  | none => .error .notToml
  | some root =>
    match (root.get? "version").bind integer? with
    | none => .error .unversioned
    | some v =>
      if v ≠ version then .error (.otherVersion v)
      else
        match decode? root with
        | none => .error .undecodable
        | some c => c.check.map fun _ ↦ c

/-! ### What the configuration says -/

/-- The address of the service. -/
def baseUrl (c : Config) : String :=
  Url.withoutSlashes (c.baseUrl?.getD defaultBaseUrl)

/-- How long the service may take to answer. -/
def timeout (c : Config) : Except DurationError Duration :=
  Duration.read (c.timeout?.getD defaultTimeout)

/-- How many rows a page has. -/
def pageSize (c : Config) : UInt32 :=
  c.pageSize?.getD defaultPageSize

/-- The path of the settings database, where `usual` is the one that is taken otherwise. -/
def databasePath (c : Config) (usual : String) : String :=
  c.databasePath?.getD usual

/-- The most bytes that an uploaded document may have. -/
def maxUploadBytes (c : Config) : Nat :=
  match c.maxUploadSize? with
  | some n => if n < 0 then Upload.defaultLimit else n.toInt.toNat
  | none => Upload.defaultLimit

/-- Whether the sidebar starts collapsed. -/
def sidebarCollapsed (c : Config) : Bool :=
  c.sidebarCollapsed?.getD false

/-- Why the lifetime of menus cannot be told. -/
inductive LifetimeError where
  | invalid (cause : DurationError)
  | outOfRange
  deriving DecidableEq, Repr

/-- The wording of each cause. -/
def LifetimeError.message : LifetimeError → String
  | .invalid cause => cause.message
  | .outOfRange =>
    "session.menu_cache_ttl is out of range: " ++
      "Source value is out of range for the target type"

/-- Whether the program ends where it comes upon this, instead of reporting it. -/
def LifetimeError.aborts : LifetimeError → Bool
  | .invalid cause => cause.aborts
  | .outOfRange => false

/-- How long a menu from the service stays good. The seconds must be below the sixty-third power of
two. -/
def menuCacheTtl (c : Config) : Except LifetimeError Duration :=
  match Duration.read (c.menuCacheTtl?.getD defaultMenuCacheTtl) with
  | .error cause => .error (.invalid cause)
  | .ok d => if Int64.maxValue.toInt < d.seconds.toNat then .error .outOfRange else .ok d

/-- How much is logged. -/
def logLevel (c : Config) : String :=
  Text.lowerAscii (Text.trim (c.logLevel?.getD defaultLogLevel))

/-- The path of the log, which otherwise stands beside the settings database. -/
def logFile (c : Config) (usualDatabase : String) : String :=
  c.logFile?.getD (Path.withFileName (c.databasePath usualDatabase) "vendorhub.log")

/-! ### A file to start from -/

/-- The text of a configuration file that gives what is taken anyway. -/
def template (path : String) : String :=
  String.intercalate "\n"
    ["# vendorhub config",
     "# Place this file at: " ++ path,
     "",
     "version = 1",
     "",
     "[api]",
     "base_url = \"" ++ defaultBaseUrl ++ "\"",
     "timeout = \"" ++ defaultTimeout ++ "\"",
     "page_size = " ++ toString defaultPageSize.toNat,
     "",
     "[storage]",
     "# Optional. Default is platform data dir " ++
       "(for example ~/.local/share/vendorhub/settings.db)",
     "# db_path = \"/absolute/path/to/settings.db\"",
     "max_upload_size = " ++ toString Upload.defaultLimit,
     "",
     "[ui]",
     "sidebar_collapsed = false",
     "",
     "[session]",
     "menu_cache_ttl = \"" ++ defaultMenuCacheTtl ++ "\"",
     "",
     "[log]",
     "level = \"" ++ defaultLogLevel ++ "\"",
     "# file = \"/absolute/path/to/vendorhub.log\"",
     ""]

end Config

/-- The wording of each cause, for the file at a path. -/
def ConfigError.message (path : String) : ConfigError → String
  | .notToml => "parse TOML config " ++ path
  | .unversioned =>
    "config file " ++ path ++ " is not versioned. Add `version = 1` and put values under [api], " ++
      "[storage], [ui], [session], and [log]"
  | .otherVersion version =>
    "unsupported config version " ++ toString version.toInt ++ " in " ++ path ++
      "; expected version = 1"
  | .undecodable => "decode config " ++ path
  | .emptyBaseUrl => "api.base_url in " ++ path ++ " must not be empty"
  | .timeout cause => cause.message
  | .timeoutNotPositive raw => "api.timeout in " ++ path ++ " must be positive, got " ++ raw
  | .pageSize size =>
    "api.page_size in " ++ path ++ " must be between 1 and " ++
      toString Config.maxPageSize.toNat ++ ", got " ++ toString size.toNat
  | .databasePath cause => cause.message
  | .maxUploadSize size =>
    "storage.max_upload_size in " ++ path ++ " must be positive, got " ++ toString size.toInt
  | .menuCacheTtl cause => "session.menu_cache_ttl in " ++ path ++ ": " ++ cause.message
  | .logLevel raw =>
    "log.level in " ++ path ++ " must be one of " ++ String.intercalate ", " Config.logLevels ++
      ", got " ++ Text.quoted raw

end PitchDesk
