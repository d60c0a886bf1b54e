import PitchDesk.File.Making
import PitchDesk.Service.Client
import PitchDesk.Store.Basic

/-!
# What the command finds

The variables, files and databases that the command works with, and how the service can be reached.

The clock, the screen and the network are no part of it: the service is a transport that is handed
in, and there is no terminal to open, so a session that has started ends with what the system says
to that. A database is known by the place of its file and not by the path that led there, so two
paths to one file are one database.
-/

namespace PitchDesk.Command

/-- The surroundings of a command, which it changes. -/
structure Machine where
  environment : List (String × String)
  files : FileTree
  /-- The files that hold a database, by their places, each with its table of settings if it has
  one. -/
  databases : List (List String × Option SettingTable)
  send : Client.Transport
  /-- What the system says where a session would be shown, as there is no terminal. -/
  noTerminal : String

namespace Machine

/-- The value of a variable. -/
def environment? (m : Machine) (name : String) : Option String :=
  m.environment.lookup name

/-- What a path leads to. -/
def file? (m : Machine) (path : String) : Option FileNode :=
  m.files.get? path

/-- Makes a directory and those on the way to it, and tells why it cannot be done. -/
def ensureDirectories (m : Machine) (path : String) : Option FileError × Machine :=
  let (failure, files) := m.files.ensureDirectories path
  (failure, { m with files := files })

/-- Opens a file, which is made if it is not there. -/
def touch (m : Machine) (path : String) : Except FileError Machine :=
  (m.files.touch path).map fun files ↦ { m with files := files }

/-- Adds a text to the end of a file. -/
def append (m : Machine) (path text : String) : Machine :=
  { m with files := m.files.append path text.toUTF8 }

/-- Opens the settings database at a path. -/
def openStore (m : Machine) (path : String) : Except StoreError Store × Machine :=
  let (store, files) := Store.open? m.files m.databases path
  (store, { m with files := files })

/-- Keeps a database in its file, unless it is in memory. -/
def save (m : Machine) (s : Store) : Machine :=
  match s.file with
  | some place => { m with databases := (place, s.table) :: m.databases.filter (·.1 != place) }
  | none => m

end Machine

end PitchDesk.Command
