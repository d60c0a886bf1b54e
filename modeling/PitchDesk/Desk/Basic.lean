import PitchDesk.ActionMenu.Dropdown
import PitchDesk.Form
import PitchDesk.Listing
import PitchDesk.Record.Basic
import PitchDesk.RowAction
import PitchDesk.Screen.Area
import PitchDesk.Sidebar
import PitchDesk.Table.Views
import PitchDesk.Workspace

/-!
# The desk

Everything that a signed-in user sees and works on in the terminal: the workspace, the sidebar, one
list for each view that was opened, the menu of a row, and what lies over the screen. What the user
does is one `Turn`: the desk afterwards, and what it asks of the world outside. How the outside
answers is given to each turn, so that nothing is assumed of it.

What the outside is asked for stands in the turn as a list of effects, in the order in which it is
asked. A request that could not be started stands there too, since it was made: whether it could be
started is among the answers. What lies over the screen is three fields and not one, because
nothing in the state keeps two of them from being set; that they never are is shown of every run.

Notices and requests are told apart by numbers. Those of notices do not start again at the end of
their words, those of requests do.
-/

namespace PitchDesk

/-! ### What lies over the screen -/

/-- The fields of one row, for reading. -/
structure Detail where
  title : String
  fields : List (String × String)
  deriving DecidableEq, Repr

/-- The question for the file that is to be uploaded for a row. -/
structure UploadPrompt where
  view : Resource
  id : Int64
  title : String
  path : String
  deriving DecidableEq, Repr

/-- The question whether a row is to be deleted. -/
structure PendingDelete where
  view : Resource
  id : Int64
  title : String
  deriving DecidableEq, Repr

/-- Something that lies over the screen. -/
inductive Overlay where
  | detail (detail : Detail)
  | upload (prompt : UploadPrompt)
  | confirm (pending : PendingDelete)
  deriving DecidableEq, Repr

/-! ### The desk and its turns -/

/-- What a signed-in user sees and works on. -/
structure Desk where
  workspace : Workspace
  sidebar : Sidebar
  /-- The lists of the views that were opened. -/
  lists : Resource → Option (Listing Record)
  pageSize : UInt32
  /-- What the user may do in the open view. -/
  capabilities : Option Capabilities
  selectedRow : Nat
  menu : Dropdown
  detail : Option Detail
  upload : Option UploadPrompt
  confirm : Option PendingDelete
  /-- The number of the latest notice. -/
  noticeToken : UInt64
  viewport : Area

/-- How the outside answers what is asked of it in one turn. -/
structure Answers where
  /-- Whether a fetch could be started. -/
  fetch : Except Failure Unit
  delete : Except Failure Unit
  upload : Except Failure Unit
  saveCollapsed : Except Failure Unit
  maxUploadBytes : Nat
  /-- The size of the file at a path, if there is one. -/
  fileSize : String → Option Nat

/-- What a turn asks of the outside. -/
inductive Effect where
  | fetch (view : Resource) (request : PageRequest)
  | delete (view : Resource) (id : Int64)
  | upload (view : Resource) (id : Int64) (upload : Upload)
  | saveCollapsed (collapsed : Bool)
  | logout
  /-- Sends the notice with a number away after a while. -/
  | clearLater (token : UInt64)
  deriving DecidableEq, Repr

/-- The desk after a turn, what was asked of the outside, and whether the user leaves. -/
structure Turn where
  desk : Desk
  effects : List Effect := []
  quits : Bool := false

namespace Desk

/-- A desk for a session that begins, without an open view. -/
def new (workspace : Workspace) (sidebar : Sidebar) (pageSize : UInt32) : Desk where
  workspace := workspace
  sidebar := sidebar
  lists := fun _ ↦ none
  pageSize := pageSize
  capabilities := none
  selectedRow := 0
  menu := none
  detail := none
  upload := none
  confirm := none
  noticeToken := 0
  viewport := ⟨0, 0, 80, 24⟩

/-- The list of a view; an empty one if it was not opened yet. -/
def list (d : Desk) (view : Resource) : Listing Record :=
  (d.lists view).getD (.new d.pageSize)

/-- The rows that are shown of a view. -/
def rows (d : Desk) (view : Resource) : List Record :=
  ((d.lists view).map (·.rows)).getD []

/-- What lies over the screen, the uppermost last. -/
def overlays (d : Desk) : List Overlay :=
  (d.detail.map .detail).toList ++ (d.upload.map .upload).toList ++
    (d.confirm.map .confirm).toList

/-- What lies uppermost over the screen, and takes all keys. -/
def overlay (d : Desk) : Option Overlay :=
  d.overlays.getLast?

/-- Changes the list of a view. -/
def setList (d : Desk) (view : Resource) (l : Listing Record) : Desk :=
  { d with lists := fun v ↦ if v = view then some l else d.lists v }

/-- Carries out a command on the workspace. -/
def dispatch (d : Desk) (c : Workspace.Command) : Desk :=
  { d with workspace := (d.workspace.dispatch c).1 }

/-- Closes the menu of a row. -/
def closeMenu (d : Desk) : Desk :=
  { d with menu := none }

/-- The number after that of the latest notice. Numbers do not start again. -/
def nextToken (d : Desk) : UInt64 :=
  if d.noticeToken + 1 = 0 then d.noticeToken else d.noticeToken + 1

/-- Nothing is asked of the outside. -/
def idle (d : Desk) : Turn := { desk := d }

/-- Shows a notice, which goes away after a while. -/
def notify (d : Desk) (kind : NoticeKind) (message : String) : Turn :=
  let token := d.nextToken
  { desk := { d.dispatch (.showNotice ⟨kind, message⟩) with noticeToken := token }
    effects := [.clearLater token] }

/-- Sends the latest request of a view's list. -/
def fetch (a : Answers) (d : Desk) (view : Resource) : Turn :=
  let asked := Effect.fetch view (d.list view).request
  match a.fetch with
  | .ok _ => { desk := d, effects := [asked] }
  | .error e =>
    let t := d.notify .error ("could not start fetch: " ++ e.full)
    { t with effects := asked :: t.effects }

/-- Goes on with a list that asks for a page: the first row is selected, and no menu is open. -/
def ask (a : Answers) (d : Desk) (view : Resource) (l : Listing Record) : Turn :=
  fetch a { d.setList view l with selectedRow := 0, menu := none } view

end Desk

/-- Goes on after a turn with another. -/
def Turn.andThen (t : Turn) (f : Desk → Turn) : Turn :=
  let next := f t.desk
  { desk := next.desk, effects := t.effects ++ next.effects, quits := t.quits || next.quits }

end PitchDesk
