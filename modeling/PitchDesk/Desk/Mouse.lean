import PitchDesk.Desk.Keys

/-!
# The mouse

A press of the left button lands on the open menu, in the sidebar or in the table, in this order. A
press beside the open menu closes it before anything else happens, unless it is on the button of a
row; scrolling closes it too. What lies over the screen takes no presses.

Where a press lands is asked twice. What it means for the table, the open menu included, is
`TableAreas.target`, and that decides whether the menu stays open. Which part of the screen then
takes the press is decided by the panes, and there the sidebar is asked before the table. All but
presses and the wheel is without effect.
-/

namespace PitchDesk

/-- What was done with the mouse at a column and row. -/
inductive MouseAction where
  | press (column row : Nat)
  | scroll
  /-- Something that does nothing here. -/
  | other
  deriving DecidableEq, Repr

namespace TableAreas

/-- What a press at a column and row of the screen means for a table without an open menu. -/
def targetBelow (t : TableAreas) (column row : Nat) : ClickTarget :=
  match t.rowAt? row with
  | some i =>
    if t.triggers.contains column row then .actionTrigger i
    else if t.body.contains column row then .rowBody i
    else .outside
  | none => if row = t.body.y ∧ t.body.contains column row then .header else .outside

/-- What a press at a column and row of the screen means for a table. The open menu lies on top of
the rows. -/
def target (t : TableAreas) (menu : Dropdown) (column row : Nat) : ClickTarget :=
  match menu with
  | some m =>
    if m.contains row column then
      match m.itemAt? row column .cells with
      | some item => .actionItem m.row item
      | none => .actionMenu m.row
    else t.targetBelow column row
  | none => t.targetBelow column row

end TableAreas

namespace ClickTarget

/-- Whether a press leaves an open menu open. -/
def keepsMenu : ClickTarget → Bool
  | .actionItem _ _ | .actionMenu _ | .actionTrigger _ => true
  | _ => false

end ClickTarget

namespace Desk

/-- Puts the cursor of the sidebar on the line that was pressed, and activates it if there is such a
line. -/
def pressSidebar (o : Oracle) (a : Answers) (d : Desk) (area : Area) (row : Nat) : Turn :=
  if row ≤ area.y then d.idle
  else
    let index := row - area.y - 1
    let d := { d with sidebar := d.sidebar.moveCursor (index - d.sidebar.cursor) }
    if d.sidebar.cursor = index then d.activateEntry o a else d.idle

/-- Does what a press in the table of a view means. -/
def pressTable (d : Desk) (view : Resource) (target : ClickTarget) : Turn :=
  match view.table.click? (d.rows view) target with
  | some (.rowClicked row _) => ({ d with selectedRow := row }.openDetail view row).idle
  | some (.toggleActions row) => { d with selectedRow := row }.toggleMenu view row
  | some (.actionChosen row item) =>
    match d.openMenu? with
    | some (_, menu) => d.chooseItem row menu item
    | none => d.idle
  | none =>
    match target with
    | .rowBody row =>
      if row < (d.rows view).length then { d with selectedRow := row }.idle else d.idle
    | _ => d.idle

/-- Takes a press of the left button. -/
def press (o : Oracle) (a : Answers) (d : Desk) (column row : Nat) : Turn :=
  if d.overlay.isSome then d.idle
  else
    let panes := d.panes
    let target := (TableAreas.ofPane panes.table).target d.menu column row
    -- the target is found while the menu is still open, since the menu lies on top of the rows
    let d := if target.keepsMenu then d else d.closeMenu
    match panes.sidebar.filter (·.contains column row), d.workspace.view with
    | some area, _ => d.pressSidebar o a area row
    | none, some view => d.pressTable view target
    | none, none => d.idle

/-- Takes what was done with the mouse. -/
def mouse (o : Oracle) (a : Answers) (d : Desk) : MouseAction → Turn
  | .press column row => d.press o a column row
  | .scroll => d.closeMenu.idle
  | .other => d.idle

/-- The screen has another size. -/
def resize (d : Desk) (width height : Nat) : Desk :=
  { d with viewport := ⟨0, 0, width, height⟩ }

end Desk

end PitchDesk
