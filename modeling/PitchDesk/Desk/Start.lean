import PitchDesk.Access.Rule
import PitchDesk.Desk.Basic
import PitchDesk.Menu.Resolved

/-!
# Opening views

A view opens only if the user may see it; what the user may do there is worked out at that moment. A
session starts with the first view of the menu that the user may see.

Opening a view and starting a session go the same way, so a view that the user may not see is
refused in both. The rules are asked for when a view is opened and not later; what they gave then
stays with the desk as long as the view is open.
-/

namespace PitchDesk.Desk

/-- What the user may do in a view. -/
def capabilitiesIn (o : Oracle) (view : Resource) : Capabilities :=
  (Descriptor.ofResource view).evaluate o

/-- Opens a view and asks for its current page, if the user may see it. -/
def switchView (o : Oracle) (a : Answers) (d : Desk) (view : Resource) : Turn :=
  let caps := capabilitiesIn o view
  if caps.canView then
    let d := { d.dispatch (.selectView view) with capabilities := some caps }
    d.ask a view (d.list view).refresh
  else d.notify .error ("you do not have access to " ++ view.label)

/-- Tells where the menu comes from if it is not the service's. Otherwise a notice that is shown
already goes away after a while. -/
def greet (d : Desk) (source : Menu.Source) : Turn :=
  match source with
  | .fallback => d.notify .info "server menu unavailable; showing default navigation"
  | .server =>
    if d.workspace.notice.isSome then
      let token := d.nextToken
      { desk := { d with noticeToken := token }, effects := [.clearLater token] }
    else d.idle

/-- Opens the first view of the menu that the user may see. -/
def openFirst (o : Oracle) (a : Answers) (d : Desk) : Turn :=
  match d.sidebar.routableViews.find? fun v ↦ (capabilitiesIn o v).canView with
  | some view =>
    switchView o a { d with sidebar := (d.sidebar.selectView? view).getD d.sidebar } view
  | none => d.notify .info "no list views are available for this account"

/-- Starts a session with a menu. -/
def start (o : Oracle) (a : Answers) (w : Workspace) (menu : Menu.Resolved) (pageSize : UInt32) :
    Turn :=
  let d := new w (.ofMenu menu.forest w.sidebarCollapsed) pageSize
  (d.greet menu.source).andThen (openFirst o a)

end PitchDesk.Desk
