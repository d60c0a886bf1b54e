import PitchDesk.Access.Permission

/-!
# The state of the application

Who is signed in, which list view is open, which part of the screen has the focus, whether the
sidebar is collapsed, and the notice that is shown. Each command changes it and tells in events what
changed.

Opening the view that is open, moving the focus to where it is and clearing a notice when there is
none change nothing and give no event; all other commands give one or two. The sidebar, the lists
and the menus are kept elsewhere, so nothing here knows of rows.
-/

namespace PitchDesk

/-- A part of the screen that keys may go to. -/
inductive Focus where
  | sidebar
  | search
  | table
  deriving DecidableEq, Repr

/-- How a notice is meant. -/
inductive NoticeKind where
  | info
  | success
  | error
  deriving DecidableEq, Repr

/-- A message to the user. -/
structure Notice where
  kind : NoticeKind
  message : String
  deriving DecidableEq, Repr

/-- What every part of the screen depends on. -/
structure Workspace where
  view : Option Resource := none
  focus : Focus := .sidebar
  sidebarCollapsed : Bool := false
  notice : Option Notice := none
  user : Option SessionUser := none
  deriving DecidableEq, Repr

namespace Workspace

/-- A change that the user or the program asks for. -/
inductive Command where
  | signedIn (user : SessionUser)
  | selectView (view : Resource)
  | nextFocus
  | prevFocus
  | focusSearch
  | toggleSidebar
  | showNotice (notice : Notice)
  | clearNotice
  | logout
  deriving DecidableEq, Repr

/-- What a command has changed. -/
inductive Event where
  | sessionStarted (user : SessionUser)
  | viewChanged (view : Resource)
  | focusChanged (focus : Focus)
  | sidebarToggled (collapsed : Bool)
  | noticeShown (notice : Notice)
  | noticeCleared
  | loggedOut
  deriving DecidableEq, Repr

/-- The parts that the focus goes through. A collapsed sidebar is left out. -/
def focusOrder (w : Workspace) : List Focus :=
  if w.sidebarCollapsed then [.search, .table] else [.sidebar, .search, .table]

/-- Moves the focus. -/
def setFocus (w : Workspace) (focus : Focus) : Workspace × List Event :=
  if w.focus = focus then (w, []) else ({ w with focus := focus }, [.focusChanged focus])

/-- The part that stands some places after the current one, around the order. A part that is left
out counts as the first. -/
def focusAfter (w : Workspace) (steps : Int) : Focus :=
  let order := w.focusOrder
  let current := (order.findIdx? (· == w.focus)).getD 0
  order.getD ((current + steps) % order.length).toNat .table

/-- Shows a notice in place of the one before. -/
def notify (w : Workspace) (notice : Notice) : Workspace × List Event :=
  ({ w with notice := some notice }, [.noticeShown notice])

/-- Carries out a command. -/
def dispatch (w : Workspace) : Command → Workspace × List Event
  | .signedIn user =>
    let (w, events) :=
      { w with user := some user }.notify ⟨.success, "signed in as " ++ user.name⟩
    (w, .sessionStarted user :: events)
  | .selectView view =>
    if w.view = some view then (w, [])
    else
      let (w, events) := { w with view := some view }.setFocus .table
      (w, .viewChanged view :: events)
  | .nextFocus => w.setFocus (w.focusAfter 1)
  | .prevFocus => w.setFocus (w.focusAfter (-1))
  | .focusSearch => w.setFocus .search
  | .toggleSidebar =>
    let w := { w with sidebarCollapsed := !w.sidebarCollapsed }
    let toggled := Event.sidebarToggled w.sidebarCollapsed
    if w.sidebarCollapsed ∧ w.focus = .sidebar then
      let (w, events) := w.setFocus .table
      (w, toggled :: events)
    else (w, [toggled])
  | .showNotice notice => w.notify notice
  | .clearNotice =>
    match w.notice with
    | some _ => ({ w with notice := none }, [.noticeCleared])
    | none => (w, [])
  | .logout =>
    let (w, events) :=
      { w with user := none, view := none, focus := .sidebar }.notify ⟨.info, "signed out"⟩
    (w, .loggedOut :: events)

end Workspace

end PitchDesk
