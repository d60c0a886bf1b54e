import PitchDesk.Desk.Row
import PitchDesk.Desk.Start

/-!
# Keys

What lies over the screen takes all keys, then an open menu does; only then do keys go to the part
of the screen that has the focus. Two keys leave the program from anywhere.

The handlers come in the order in which a key is looked up, each for one part of the desk, and
`Desk.key` is the lookup. A key has a code and the keys that are held with it; a handler that looks
at the code alone takes the key with any of them. The two keys that leave the program take others
beside the control key; the two that fold the sidebar and sign out do not.
-/

namespace PitchDesk

/-- A key of the keyboard. -/
inductive KeyCode where
  | enter
  | escape
  | tab
  | backTab
  | up
  | down
  | left
  | right
  | pageUp
  | pageDown
  | backspace
  | char (c : Char)
  /-- A key that nothing here is bound to. -/
  | other
  deriving DecidableEq, Repr

/-- The key with a name. A key that types a character has that character as its name. -/
def KeyCode.named (name : String) : KeyCode :=
  match name with
  | "enter" => .enter
  | "esc" => .escape
  | "tab" => .tab
  | "backtab" => .backTab
  | "up" => .up
  | "down" => .down
  | "left" => .left
  | "right" => .right
  | "pageup" => .pageUp
  | "pagedown" => .pageDown
  | "backspace" => .backspace
  | _ =>
    match name.toList with
    | [c] => .char c
    | _ => .other

/-- A key with the keys that are held down with it. -/
structure Key where
  code : KeyCode
  control : Bool := false
  shift : Bool := false
  alt : Bool := false
  deriving DecidableEq, Repr

namespace Key

/-- Whether the control key and no other is held down with a key. -/
def isControl (k : Key) : Bool :=
  k.control && !k.shift && !k.alt

/-- The character that a key types. -/
def typed? (k : Key) : Option Char :=
  match k.code with
  | .char c => if k.control then none else some c
  | _ => none

end Key

namespace Desk

/-- Answers the question whether a row is to be deleted. -/
def confirmKey (a : Answers) (d : Desk) (p : PendingDelete) (k : Key) : Turn :=
  match k.code with
  | .char 'y' | .char 'Y' => deleteRow a { d with confirm := none } p
  | .char 'n' | .char 'N' | .escape => { d with confirm := none }.idle
  | _ => d.idle

/-- Types into the question for a file. -/
def uploadKey (a : Answers) (d : Desk) (p : UploadPrompt) (k : Key) : Turn :=
  let path (text : List Char) : Turn :=
    { d with upload := some { p with path := String.ofList text } }.idle
  match k.code with
  | .escape => { d with upload := none }.idle
  | .backspace => path p.path.toList.dropLast
  -- the question goes away even if the file is refused
  | .enter => submitUpload a { d with upload := none } p
  | _ =>
    match k.typed? with
    | some c => path (p.path.toList ++ [c])
    | none => d.idle

/-- Reads the fields of a row. -/
def detailKey (d : Desk) (k : Key) : Turn :=
  match k.code with
  | .escape | .enter | .char 'q' => { d with detail := none }.idle
  | _ => d.idle

/-- Moves in the open menu, and chooses from it. -/
def menuKey (d : Desk) (k : Key) : Turn :=
  match d.openMenu? with
  | none => d.closeMenu.idle
  | some (row, menu) =>
    match k.code with
    | .escape => d.closeMenu.idle
    | .char 'j' | .down => { d with menu := d.menu.moveHighlight menu 1 }.idle
    | .char 'k' | .up => { d with menu := d.menu.moveHighlight menu (-1) }.idle
    | .enter => d.chooseItem row menu ((d.menu.map (·.highlighted)).getD 0)
    | _ => d.idle

/-- Opens the view that the line under the cursor leads to, or folds or unfolds its group. -/
def activateEntry (o : Oracle) (a : Answers) (d : Desk) : Turn :=
  match d.sidebar.selected? with
  | none => d.idle
  | some e =>
    if e.isGroup then { d with sidebar := d.sidebar.toggleExpanded?.getD d.sidebar }.idle
    else
      match e.view? with
      | some view => switchView o a d view
      | none => d.notify .info (e.title ++ " has no list view here")

/-- Moves in the sidebar. -/
def sidebarKey (o : Oracle) (a : Answers) (d : Desk) (k : Key) : Turn :=
  match k.code with
  | .char 'q' => { desk := d, quits := true }
  | .char 'j' | .down => { d with sidebar := d.sidebar.moveCursor 1 }.idle
  | .char 'k' | .up => { d with sidebar := d.sidebar.moveCursor (-1) }.idle
  | .char ' ' | .char 'h' | .left =>
    { d with sidebar := d.sidebar.toggleExpanded?.getD d.sidebar }.idle
  | .enter | .char 'l' | .right => activateEntry o a d
  | _ => d.idle

/-- The key of the search field that a key is. -/
def searchKey? (k : Key) : Option SearchKey :=
  match k.code with
  | .enter => some .enter
  | .backspace => some .backspace
  | _ => k.typed?.map .char

/-- Types into the search field. -/
def searchKey (a : Answers) (d : Desk) (k : Key) : Turn :=
  if k.code = .escape then (d.dispatch .nextFocus).idle
  else
    match d.workspace.view, searchKey? k with
    | some view, some key =>
      match (d.list view).typeKey key with
      | (l, true) => d.ask a view l
      | (l, false) => (d.setList view l).idle
    | _, _ => d.idle

/-- Asks for another page of the open view, if there is such a page. -/
def turnPage (a : Answers) (d : Desk) (view : Resource) (l : Option (Listing Record)) : Turn :=
  match l with
  | some l => d.ask a view l
  | none => d.idle

/-- Moves in the table of the open view. -/
def viewKey (a : Answers) (d : Desk) (view : Resource) (k : Key) : Turn :=
  match k.code with
  | .char 'j' | .down =>
    if d.selectedRow + 1 < (d.rows view).length then
      { d with selectedRow := d.selectedRow + 1 }.idle
    else d.idle
  | .char 'k' | .up => { d with selectedRow := d.selectedRow - 1 }.idle
  | .char 'n' | .pageDown => d.turnPage a view (d.list view).nextPage?
  | .char 'p' | .pageUp => d.turnPage a view (d.list view).prevPage?
  | .char 'r' => d.ask a view (d.list view).reset
  | .char 'R' => d.ask a view (d.list view).refresh
  | .enter =>
    match view.table.click? (d.rows view) (.rowBody d.selectedRow) with
    | some (.rowClicked row _) => (d.openDetail view row).idle
    | _ => d.idle
  | .char 'a' | .char '.' => d.toggleMenu view d.selectedRow
  | _ => d.idle

/-- Moves in the table, if a view is open. -/
def tableKey (a : Answers) (d : Desk) (k : Key) : Turn :=
  if k.code = .char 'q' then { desk := d, quits := true }
  else if k.code = .char '/' then (d.dispatch .focusSearch).idle
  else
    match d.workspace.view with
    | some view => d.viewKey a view k
    | none => d.idle

/-- Collapses the sidebar or brings it back, and remembers that. -/
def toggleSidebar (a : Answers) (d : Desk) : Turn :=
  let d := d.dispatch .toggleSidebar
  let collapsed := d.workspace.sidebarCollapsed
  let sidebar :=
    if d.sidebar.collapsed = collapsed then d.sidebar else d.sidebar.toggleCollapsed
  -- an open menu was placed for the panes as they were
  let asked : Turn :=
    { desk := { d.closeMenu with sidebar := sidebar }, effects := [.saveCollapsed collapsed] }
  match a.saveCollapsed with
  | .ok _ => asked
  | .error e => asked.andThen (·.notify .error ("could not save sidebar preference: " ++ e.full))

/-- Signs out: nothing of the session stays, and the program ends. -/
def logout (d : Desk) : Turn :=
  let d := d.dispatch .logout
  { desk :=
      { d.closeMenu with
        lists := fun _ ↦ none
        capabilities := none
        sidebar := d.sidebar.replaceMenu [] }
    effects := [.logout]
    quits := true }

/-- Takes a key that nothing over the screen has taken. -/
def freeKey (o : Oracle) (a : Answers) (d : Desk) (k : Key) : Turn :=
  if k.code = .tab then (d.dispatch .nextFocus).idle
  else if k.code = .backTab then (d.dispatch .prevFocus).idle
  else if k.code = .char 'b' ∧ k.isControl then d.toggleSidebar a
  else if k.code = .char 'l' ∧ k.isControl then d.logout
  else
    match d.workspace.focus with
    | .sidebar => d.sidebarKey o a k
    | .search => d.searchKey a k
    | .table => d.tableKey a k

/-- Takes a key. -/
def key (o : Oracle) (a : Answers) (d : Desk) (k : Key) : Turn :=
  if k.control ∧ (k.code = .char 'q' ∨ k.code = .char 'c') then { desk := d, quits := true }
  else
    match d.overlay with
    | some (.confirm p) => d.confirmKey a p k
    | some (.upload p) => d.uploadKey a p k
    | some (.detail _) => d.detailKey k
    | none => if d.menu.isSome then d.menuKey k else d.freeKey o a k

end Desk

end PitchDesk
