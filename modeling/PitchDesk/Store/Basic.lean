import PitchDesk.Setting
import PitchDesk.Store.Location
import PitchDesk.Store.Place

/-!
# The settings database

A table from keys to stored texts. The table must be made before settings can be read or written,
and a table of an older form, which does not note when a setting was changed, can be read but not
written. What is stored may have been written by others, so reading a setting can fail: what stands
under a key need not be a text (`Stored`), and a text need not be a value of its setting.

The database is one of SQLite, and of that library this much is taken over: a file is a database or
is not, a database has a table of this name or has none, a key leads to the first row that has it,
and to write a row under a key puts it in the place of the one before. Results on reading and
writing settings rest on that. What the library says of values that are no texts is not made up
here but part of the table.
-/

namespace PitchDesk

/-- Why the database does not do what is asked. -/
inductive StoreError where
  | location (cause : LocationError)
  | nul (path : String) (position : Nat)
  | cannotOpen (path : String)
  | notDatabase
  | noJournal
  | outdatedTable
  | unreadable (key : String)
  /-- What stands under a key is no text, of which the database says something. -/
  | notText (key : String) (complaint : List String)
  | unwritable (key : String)
  | invalidValue (key : SettingKey) (stored : String)
  | wrongKind (key : SettingKey)
  deriving DecidableEq, Repr

/-- The wording of each cause. -/
def StoreError.message : StoreError → String
  | .location cause => cause.message
  | .nul path _ => "open database at " ++ path
  | .cannotOpen path => "open database at " ++ path
  | .notDatabase => "configure sqlite pragmas"
  | .noJournal => "configure sqlite pragmas"
  | .outdatedTable =>
    "settings table needs key, value and updated_at columns; " ++
      "delete the settings database to recreate it"
  | .unreadable key => "read setting " ++ key
  | .notText key _ => "read setting " ++ key
  | .unwritable key => "upsert setting " ++ key
  | .invalidValue key stored =>
    "setting `" ++ key.code ++ "` has invalid value `" ++ stored ++
      "`; run `vendorhub --check` or delete the settings database"
  | .wrongKind key => "setting `" ++ key.code ++ "` expected " ++ key.kind.name ++ " value"

/-- What the database itself says of a cause, from the outside to the inside. -/
def StoreError.details : StoreError → List String
  | .nul _ position =>
    List.replicate 2 ("nul byte found in provided data at position: " ++ toString position)
  | .cannotOpen path =>
    ["unable to open database file: " ++ path,
      "Error code 14: Unable to open the database file"]
  | .notDatabase =>
    ["file is not a database", "Error code 26: File opened that is not a database file"]
  | .noJournal =>
    ["unable to open database file", "Error code 14: Unable to open the database file"]
  | .notText _ complaint => complaint
  | _ => []

/-- The wording of each cause, with what the database says of it. -/
def StoreError.full (e : StoreError) : String :=
  ": ".intercalate (e.message :: e.details)

/-- What stands under a key. -/
inductive Stored where
  | text (s : String)
  /-- Bytes that are no text, or a value of another type, with what the database says when it is
  read as a text, from the outside to the inside. -/
  | other (complaint : List String)
  deriving DecidableEq, Repr

/-- The form of a table of settings. -/
inductive TableForm where
  | current
  /-- All columns are there, but a key may have many rows, so that none can be put in the place of
  another. -/
  | unkeyed
  /-- There is no column for when a setting was changed. -/
  | outdated
  deriving DecidableEq, Repr

/-- The table of settings. -/
structure SettingTable where
  form : TableForm
  /-- The keys with what stands under them. A table of the current form has them in order. -/
  rows : List (String × Stored)
  deriving DecidableEq, Repr

/-- Puts a text under a key, in place of what was there before. -/
def SettingTable.put (key text : String) : List (String × Stored) → List (String × Stored)
  | [] => [(key, .text text)]
  | row :: rows =>
    if row.1 = key then (key, .text text) :: rows
    else if key < row.1 then (key, .text text) :: row :: rows
    else row :: put key text rows

/-- A database, with the place of the file that it is kept in unless it is in memory. -/
structure Store where
  file : Option (List String)
  table : Option SettingTable
  deriving DecidableEq, Repr

namespace Store

/-- A new database in memory. -/
def inMemory : Store := ⟨none, none⟩

/-- The place of the file of the database at a path, or nothing for one in memory. -/
def locate (files : FileTree) (path : String) : Except StoreError (Option (List String)) :=
  match Location.check path with
  | .error cause => .error (.location cause)
  | .ok _ =>
    if path = Location.memory then .ok none
    else
      let before := path.toList.takeWhile (· != '\x00')
      if before.length < path.length then
        .error (.nul path (String.ofList before).utf8ByteSize)
      else
        match Location.place? files path with
        | some place => .ok (some place)
        | none => .error (.cannotOpen path)

/-- What the name of the journal beside a database file ends in. -/
def journalEnding : String := "-journal"

/-- Whether a file can have a journal beside it, whose name is longer. -/
def hasJournal (place : List String) : Bool :=
  ((place.getLast?.getD "") ++ journalEnding).utf8ByteSize ≤ FileTree.nameLimit

/-- Whether a file holds something. A single byte does not count. -/
def isFilled (files : FileTree) (place : List String) : Bool :=
  match files.at? place with
  | some (.file content) => 1 < content.size
  | _ => false

/-- Opens the database at a path, where `databases` are the files that hold one, each with the table
of settings if the database has it. Any other file that holds something is no database. The file is
made if it is not there, and stays when the database cannot be used. -/
def open? (files : FileTree) (databases : List (List String × Option SettingTable))
    (path : String) : Except StoreError Store × FileTree :=
  match locate files path with
  | .error e => (.error e, files)
  | .ok none => (.ok inMemory, files)
  | .ok (some place) =>
    match databases.lookup place with
    | some table? => (.ok ⟨some place, table?⟩, files)
    | none =>
      if isFilled files place then (.error .notDatabase, files)
      else
        -- the file is made first, and stays even when no journal can stand beside it
        let files := files.put place (.file .empty)
        if hasJournal place then (.ok ⟨some place, none⟩, files) else (.error .noJournal, files)

/-- Closes the database and opens it again. What is kept in memory is lost. -/
def reopen (s : Store) : Store :=
  if s.file.isSome then s else inMemory

/-- Makes the table of settings if there is none. -/
def bootstrap (s : Store) : Except StoreError Store :=
  match s.table with
  | none => .ok { s with table := some ⟨.current, []⟩ }
  | some table => if table.form = .outdated then .error .outdatedTable else .ok s

/-- The stored text of a setting, if anything stands under its key. -/
def raw? (s : Store) (key : String) : Except StoreError (Option String) :=
  match s.table with
  | none => .error (.unreadable key)
  | some table =>
    match table.rows.lookup key with
    | none => .ok none
    | some (.text text) => .ok (some text)
    | some (.other complaint) => .error (.notText key complaint)

/-- The value of a setting, if it was ever put. -/
def get? (s : Store) (key : SettingKey) : Except StoreError (Option SettingValue) := do
  match ← s.raw? key.code with
  | none => return none
  | some stored =>
    match SettingValue.read? key stored with
    | some value => return some value
    | none => throw (.invalidValue key stored)

/-- Puts a text under a key. -/
def putRaw (s : Store) (key stored : String) : Except StoreError Store :=
  match s.table with
  | none => .error (.unwritable key)
  | some table =>
    if table.form = .current then
      .ok { s with table := some { table with rows := SettingTable.put key stored table.rows } }
    else .error (.unwritable key)

/-- Puts the value of a setting. -/
def put (s : Store) (key : SettingKey) (value : SettingValue) : Except StoreError Store :=
  match value.stored? key with
  | some stored => s.putRaw key.code stored
  | none => .error (.wrongKind key)

/-- The settings that were put, with their values. -/
def settings (s : Store) : Except StoreError (List (SettingKey × SettingValue)) := do
  let values ← SettingKey.all.mapM fun key ↦ return (key, ← s.get? key)
  return values.filterMap fun (key, value) ↦ value.map fun v ↦ (key, v)

/-- Whether the sidebar was last collapsed, if that was ever put. -/
def sidebarCollapsed? (s : Store) : Except StoreError (Option Bool) := do
  match ← s.get? .sidebarCollapsed with
  | some (.bool b) => return some b
  | _ => return none

/-- Remembers whether the sidebar is collapsed. -/
def putSidebarCollapsed (s : Store) (collapsed : Bool) : Except StoreError Store :=
  s.put .sidebarCollapsed (.bool collapsed)

/-- The address that was last used to sign in, unless it is blank. -/
def lastEmail? (s : Store) : Except StoreError (Option String) := do
  match ← s.get? .lastEmail with
  | some (.text email) => return if Text.isBlankText email then none else some (Text.trim email)
  | _ => return none

/-- Remembers the address that was used to sign in. -/
def putLastEmail (s : Store) (email : String) : Except StoreError Store :=
  s.put .lastEmail (.text (Text.trim email))

end Store

end PitchDesk
