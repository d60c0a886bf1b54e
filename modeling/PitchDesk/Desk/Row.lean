import PitchDesk.Desk.Basic

/-!
# Working on a row

The menu of a row, and what its items do: some lie over the screen until the user has answered, and
only then is anything asked of the outside.

A question is a field of the desk with all that is needed to carry it out later: the view, the id
and the title of the row at the time of the choice. It does not refer to the row by its place,
since rows may be replaced before the user has answered. A row without an id cannot be asked about.
What comes of a change is told by a notice, and after a change that was made the current page is
asked for again.
-/

namespace PitchDesk

/-- What an item is called in messages. -/
def RowAction.label : RowAction → String
  | .view => "view"
  | .edit => "edit"
  | .uploadDocument => "upload"
  | .shortlist => "shortlist"
  | .markWinner => "mark winner"
  | .exportRow => "export"
  | .delete => "delete"

/-- The fields of a row as the table of its view shows them. -/
def Detail.ofRow (view : Resource) (row : Record) : Detail where
  title := row.title
  fields :=
    match view.table.render [row] false with
    | .rows header (r :: _) => header.zip (r.cells.map Cell.display)
    | _ => []

namespace Desk

/-- Lays the fields of a row over the screen, if there is such a row. -/
def openDetail (d : Desk) (view : Resource) (row : Nat) : Desk :=
  match (d.rows view)[row]? with
  | some r => { d with detail := some (.ofRow view r) }
  | none => d

/-- The row whose menu is open, with its menu. -/
def openMenu? (d : Desk) : Option (Nat × ActionMenu RowAction) := do
  let view ← d.workspace.view
  let caps ← d.capabilities
  let row ← d.menu.row?
  let r ← (d.rows view)[row]?
  return (row, r.actions caps)

/-- The parts of the screen at present. -/
def panes (d : Desk) : Panes :=
  .ofScreen d.viewport d.workspace.sidebarCollapsed

/-- Opens the menu of a row beside its button, or closes it. -/
def toggleMenu (d : Desk) (view : Resource) (row : Nat) : Turn :=
  match d.capabilities, (d.rows view)[row]? with
  | some caps, some r =>
    let menu := r.actions caps
    if menu.isEmpty then d.notify .info "no actions available for this row"
    else
      let button := (TableAreas.ofPane d.panes.table).triggerButton row
      { d with menu := d.menu.toggle row menu button d.viewport.toRect .cells }.idle
  | _, _ => d.idle

/-- Does what an item of a row's menu says. -/
def runAction (d : Desk) (row : Nat) (action : RowAction) : Turn :=
  match d.workspace.view with
  | none => d.idle
  | some view =>
    match (d.rows view)[row]? with
    | none => d.idle
    | some r =>
      let ask (question : Int64 → Desk) : Turn :=
        match r.id? with
        | some id => (question id).idle
        | none => d.notify .error (r.title ++ " has no server id")
      match action with
      | .view => (d.openDetail view row).idle
      | .delete => ask fun id ↦ { d with confirm := some ⟨view, id, r.title⟩ }
      | .uploadDocument => ask fun id ↦ { d with upload := some ⟨view, id, r.title, ""⟩ }
      | .edit | .shortlist | .markWinner | .exportRow =>
        d.notify .info (action.label ++ " is not available in the terminal client")

/-- Chooses an item of the open menu, which closes. -/
def chooseItem (d : Desk) (row : Nat) (menu : ActionMenu RowAction) (item : Nat) : Turn :=
  match d.menu.select? menu item with
  | some action => d.closeMenu.runAction row action
  | none => d.closeMenu.idle

/-- Asks for the current page of a view again, after a change. -/
def refetch (a : Answers) (d : Desk) (view : Resource) : Turn :=
  (d.setList view (d.list view).refresh).fetch a view

/-- Deletes a row for good. -/
def deleteRow (a : Answers) (d : Desk) (p : PendingDelete) : Turn :=
  let asked : Turn := { desk := d, effects := [.delete p.view p.id] }
  match a.delete with
  | .ok _ =>
    asked.andThen fun d ↦
      (d.notify .success ("deleted " ++ p.title)).andThen (refetch a · p.view)
  | .error e => asked.andThen (·.notify .error ("delete failed: " ++ e.full))

/-- Uploads the file that was named for a row, if it is accepted. -/
def submitUpload (a : Answers) (d : Desk) (p : UploadPrompt) : Turn :=
  let path := Text.trim p.path
  let upload : Upload := ⟨path, p.title, a.fileSize path⟩
  match upload.check a.maxUploadBytes with
  | .error cause => d.notify .error cause.message
  | .ok _ =>
    let asked : Turn := { desk := d, effects := [.upload p.view p.id upload] }
    match a.upload with
    | .ok _ =>
      asked.andThen fun d ↦
        (d.notify .success ("uploaded " ++ upload.fileName ++ " to " ++ p.title)).andThen
          (refetch a · p.view)
    | .error e => asked.andThen (·.notify .error ("upload failed: " ++ e.full))

end Desk

end PitchDesk
