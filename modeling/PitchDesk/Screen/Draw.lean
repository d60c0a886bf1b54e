import PitchDesk.Desk.Row
import PitchDesk.Screen.Canvas

/-!
# What the screen shows

The parts of the desk, each drawn into its pane; what lies over the screen is drawn over them, and
the open menu over everything.

Each part is a function on canvases that draws over what is there, and the screen is one after
another on an empty canvas. The rows of the table come from `TableSpec.render`, by the same
description that says what a click on them means.
-/

namespace PitchDesk

namespace Desk

/-! ### Texts -/

/-- The open view and the user. -/
def headerText (d : Desk) : String :=
  let view := (d.workspace.view.map Resource.label).getD "no view"
  "vendorhub | " ++ view ++
    match d.workspace.user with
    | some user => " | " ++ user.name ++ " (" ++ user.role.code ++ ")"
    | none => ""

/-- Where in its list the open view is. -/
def footerText (d : Desk) : String :=
  match d.workspace.view with
  | none => ""
  | some view =>
    match d.lists view with
    | none => ""
    | some l =>
      " page " ++ toString l.query.page.toNat ++ " of " ++ toString l.query.totalPages.toNat ++
        (match l.totalItems with
          | some total => " | " ++ toString total.toNat ++ " " ++ view.label
          | none => "") ++
        (if l.isLoading then " | loading"
          else if l.error?.isSome then " | last fetch failed"
          else "")

/-- The keys of the part that has the focus. -/
def statusText (d : Desk) : String :=
  match d.workspace.focus with
  | .sidebar =>
    "j/k move | enter open | space fold | tab focus | ctrl+b sidebar | ctrl+l logout | q quit"
  | .search => "type to search | enter apply | esc back"
  | .table =>
    "j/k row | enter open | a actions | n/p page | r reset | / search | tab focus | q quit"

end Desk

namespace Canvas

/-- The style of a border: that of the focus, or the usual one. -/
def focusStyle (focused : Bool) : Style :=
  if focused then .ink .cyan else .plain

/-- The style of a cell's text. -/
def toneStyle : Tone → Style
  | .neutral => .plain
  | .positive => .ink .green
  | .warning => .ink .yellow
  | .negative => .ink .red

/-! ### The sidebar -/

/-- The mark before a line of the sidebar. -/
def entryMark (e : Sidebar.Entry) : String :=
  if e.isGroup then (if e.expanded then "v " else "> ") else "  "

/-- The style of a line of the sidebar. -/
def entryStyle (d : Desk) (index : Nat) (e : Sidebar.Entry) : Style :=
  let active : Style := { bold := e.view?.isSome && e.view? == d.workspace.view }
  if index = d.sidebar.cursor then
    if d.workspace.focus = .sidebar then { active with reversed := true }
    else { active with background := some .darkGray }
  else active

/-- A line of the sidebar. -/
def entryLine (d : Desk) (index : Nat) (e : Sidebar.Entry) : List Piece :=
  [(String.join (List.replicate e.depth "  ") ++ entryMark e ++ e.title, entryStyle d index e)]

/-- Draws the sidebar. -/
def sidebar (c : Canvas) (a : Area) (d : Desk) : Canvas :=
  (c.framed a (focusStyle (d.workspace.focus == .sidebar)) "menu").paragraph a.inner
    (d.sidebar.visible.zipIdx.map fun (e, i) ↦ entryLine d i e)

/-! ### The search field -/

/-- Draws the search field. -/
def search (c : Canvas) (a : Area) (d : Desk) : Canvas :=
  let focused := d.workspace.focus == .search
  let list := d.workspace.view.bind d.lists
  let input := (list.map (·.input)).getD ""
  let term := (list.map (·.query.term)).getD ""
  let title := if term.isEmpty then "search" else "search (filtered by \"" ++ term ++ "\")"
  (c.framed a (focusStyle focused) title).paragraph a.inner
    (linesOf (if focused then input ++ "_" else input))

/-! ### The table -/

/-- The nearest integer to a quotient. A half goes up. -/
def nearest (a b : Nat) : Nat := (2 * a + b) / (2 * b)

/-- The columns of a table with `n` columns of the same width and a blank between them, each edge
brought to the nearest cell. -/
def tableColumn (a : Area) (n k : Nat) : Area :=
  let left := nearest (k * (a.width + 1)) n
  let right := nearest ((k + 1) * (a.width + 1) - n) n
  ⟨a.x + left, a.y, right - left, 1⟩

/-- Draws the cells of a row of a table on a line. -/
def tableCells (c : Canvas) (a : Area) (cells : List (String × Style)) : Canvas :=
  cells.zipIdx.foldl (fun c ((text, style), k) ↦
    let area := tableColumn a cells.length k
    (c.restyle area style).label area ((Text.lines text).take 1)) c

/-- A line of an area. -/
def lineArea (a : Area) (i : Nat) : Area := ⟨a.x, a.y + i, a.width, 1⟩

/-- The style of a row of a table. -/
def rowStyle (d : Desk) (i : Nat) : Style :=
  if i = d.selectedRow then
    if d.workspace.focus = .table then { background := some .darkGray } else { underlined := true }
  else {}

/-- Draws the headings and the rows of a table, one line for each. Rows that have no room are left
out. -/
def tableRows (c : Canvas) (a : Area) (d : Desk) (header : List String) (rows : List RenderedRow) :
    Canvas :=
  if a.isEmpty then c
  else
    let headerStyle : Style := { foreground := some .yellow, bold := true }
    let c := (c.restyle (lineArea a 0) headerStyle).tableCells (lineArea a 0)
      (header.map (·, .plain))
    (rows.take (a.height - 1)).zipIdx.foldl (fun c (row, i) ↦
      (c.restyle (lineArea a (i + 1)) (rowStyle d i)).tableCells (lineArea a (i + 1))
        (row.cells.map fun cell ↦ (cell.display, toneStyle cell.tone))) c

/-- The button of a row. -/
def triggerLine (d : Desk) (row : Record) (i : Nat) : List Piece :=
  let trigger := (d.capabilities.bind fun caps ↦ (row.actions caps).trigger?).getD ""
  let style : Style :=
    if d.menu.row? = some i then { foreground := some .cyan, bold := true } else .ink .gray
  [(" " ++ trigger, style)]

/-- Draws a message in place of the rows. -/
def message (c : Canvas) (a : Area) (text : String) : Canvas :=
  (c.restyle a (.ink .gray)).paragraph a (linesOf text)

/-- Draws the table of the open view. -/
def table (c : Canvas) (a : Area) (d : Desk) : Canvas :=
  let title := (d.workspace.view.map Resource.label).getD "nothing selected"
  let c := c.framed a (focusStyle (d.workspace.focus == .table)) title
  match d.workspace.view with
  | none => c
  | some view =>
    let areas := TableAreas.ofPane a
    let rows := d.rows view
    match view.table.render rows ((d.lists view).any (·.isLoading)) with
    | .loading => c.message areas.body ("loading " ++ view.label ++ "...")
    | .empty text => c.message areas.body text
    | .rows header rendered =>
      (c.tableRows areas.body d header rendered).paragraph areas.triggers
        ([] :: rows.zipIdx.map fun (row, i) ↦ triggerLine d row i)

/-! ### The status line -/

/-- The color of a notice. -/
def noticeColor : NoticeKind → Color
  | .info => .cyan
  | .success => .green
  | .error => .red

/-- Draws the notice, or the keys that can be pressed. -/
def status (c : Canvas) (a : Area) (d : Desk) : Canvas :=
  c.paragraph a
    [match d.workspace.notice with
      | some n => [(n.message, .ink (noticeColor n.kind))]
      | none => [(d.statusText, .ink .gray)]]

/-! ### What lies over the screen -/

/-- A text with blanks before it up to a length of twelve. -/
def indented (text : String) : String :=
  String.ofList (List.replicate (12 - text.length) ' ') ++ text

/-- Draws what lies over the screen. -/
def overlay (c : Canvas) (screen : Area) : Overlay → Canvas
  | .detail detail =>
    let a := screen.centered 60 60
    ((c.clear a).framed a .plain (detail.title ++ " (esc to close)")).paragraph a.inner
      (detail.fields.map fun (label, value) ↦
        [(indented label ++ "  ", .ink .gray), (value, .plain)])
  | .upload prompt =>
    let a := screen.centered 60 20
    ((c.clear a).framed a .plain "upload document (enter to send, esc to cancel)").paragraph a.inner
      [(Text.lines ("file for " ++ prompt.title ++ ":")).map (·, .plain),
        [(prompt.path ++ "_", .ink .cyan)]]
  | .confirm pending =>
    let a := screen.centered 50 20
    ((c.clear a).framed a (.ink .red) "confirm").paragraph a.inner
      (linesOf ("delete " ++ pending.title ++ "? y/n"))

/-- An item of the open menu. -/
def itemLine (highlighted : Nat) (item : ActionItem RowAction) (i : Nat) : List Piece :=
  let style : Style :=
    { foreground := if item.variant = .danger then some .red else none
      reversed := i == highlighted }
  [(item.icon ++ " " ++ item.label, style)]

/-- Draws the open menu, as far as it is on the screen. -/
def menu (c : Canvas) (screen : Area) (d : Desk) : Canvas :=
  match d.menu, d.openMenu? with
  | some m, some (_, menu) =>
    let a := screen.ofRect m.position.rect
    if a.isEmpty then c
    else
      ((c.clear a).border a .plain).paragraph a.inner
        (menu.items.zipIdx.map fun (item, i) ↦ itemLine m.highlighted item i)
  | _, _ => c

end Canvas

/-- What the screen shows. -/
def Desk.draw (d : Desk) : Canvas :=
  let screen := d.viewport
  let panes := d.panes
  let c := (Canvas.blank.border panes.header .plain).paragraph panes.header.inner
    (Canvas.linesOf d.headerText)
  let c := panes.sidebar.elim c fun a ↦ c.sidebar a d
  let c := (c.search panes.search d).table panes.table d
  let c := (c.paragraph panes.footer (Canvas.linesOf d.footerText)).status panes.status d
  (d.overlays.foldl (·.overlay screen) c).menu screen d

end PitchDesk
