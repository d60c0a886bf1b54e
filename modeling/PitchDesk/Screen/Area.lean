import PitchDesk.ActionMenu.Placement

/-!
# Areas of the screen

Rectangles of screen cells, and how the screen is divided: a header, the sidebar, the search field,
the table, a footer and the status line. Where there is too little room the part in the middle is
served first, and the part before it is made as like it in size as can be.

The program names the lengths and leaves the division to the layout of ratatui 0.29, which finds it
by solving weighted constraints. The solver is not modelled. What it comes to is taken over for the
constraints that the program names, which are three parts with the last and the first of fixed
length (`Area.shares`) and percentages (`Area.percent`), and results on where something lies on the
screen, and on what a press falls on, rest on that.
-/

namespace PitchDesk

/-- A rectangle of screen cells: column and row of its first cell, width and height. -/
structure Area where
  x : Nat
  y : Nat
  width : Nat
  height : Nat
  deriving DecidableEq, Repr

namespace Area

/-- The first column to the right of an area. -/
def right (a : Area) : Nat := a.x + a.width

/-- The first row below an area. -/
def bottom (a : Area) : Nat := a.y + a.height

/-- Whether a cell lies in an area. -/
def contains (a : Area) (column row : Nat) : Bool :=
  a.x ≤ column && column < a.right && a.y ≤ row && row < a.bottom

/-- Whether an area has no cells. -/
def isEmpty (a : Area) : Bool :=
  a.width == 0 || a.height == 0

/-- What is left of an area inside a border. -/
def inner (a : Area) : Area :=
  ⟨min (a.x + 1) a.right, min (a.y + 1) a.bottom, a.width - 2, a.height - 2⟩

/-- The area as a rectangle of the kind that menus are placed in. -/
def toRect (a : Area) : Rect :=
  ⟨a.y, a.x, a.width, a.height⟩

/-! ### Dividing -/

/-- Divides a length in three: the first and the last part are to have fixed lengths, and the part
between them the rest, but at least `least`. Of what the middle leaves, neither of the others takes
more than it is to have, and the first takes the length that comes nearest to the middle's. -/
def shares (first least last total : Nat) : Nat × Nat × Nat :=
  let middle := min (max least (total - first - last)) total
  let others := total - middle
  let before := max (others - last) (min middle (min first others))
  (before, middle, others - before)

/-- Divides an area into three rows, of which the first and the last have fixed heights. -/
def rows (a : Area) (first least last : Nat) : Area × Area × Area :=
  let (f, m, l) := shares first least last a.height
  (⟨a.x, a.y, a.width, f⟩, ⟨a.x, a.y + f, a.width, m⟩, ⟨a.x, a.y + f + m, a.width, l⟩)

/-- Divides an area into three columns, of which the first and the last have fixed widths. -/
def columns (a : Area) (first least last : Nat) : Area × Area × Area :=
  let (f, m, l) := shares first least last a.width
  (⟨a.x, a.y, f, a.height⟩, ⟨a.x + f, a.y, m, a.height⟩, ⟨a.x + f + m, a.y, l, a.height⟩)

/-- A part of a length, in percent, rounded to the nearest integer. A half goes up. -/
def percent (part total : Nat) : Nat :=
  (2 * part * total + 100) / 200

/-- The area in the middle of another that takes a part of its width and of its height, in percent.
-/
def centered (a : Area) (partX partY : Nat) : Area :=
  let left := percent ((100 - partX) / 2) a.width
  let right := percent ((100 - partX) / 2 + partX) a.width
  let top := percent ((100 - partY) / 2) a.height
  let bottom := percent ((100 - partY) / 2 + partY) a.height
  ⟨a.x + left, a.y + top, right - left, bottom - top⟩

/-- A number brought between two bounds. -/
def clamp (low high n : Int) : Int :=
  max low (min high n)

/-- The part of a rectangle that lies in an area. -/
def ofRect (bounds : Area) (r : Rect) : Area :=
  let top := clamp bounds.y bounds.bottom r.top
  let left := clamp bounds.x bounds.right r.left
  let bottom := clamp top bounds.bottom r.bottom
  let right := clamp left bounds.right r.right
  ⟨left.toNat, top.toNat, (right - left).toNat, (bottom - top).toNat⟩

end Area

/-! ### The parts of the screen -/

/-- Where the parts of the screen are. A collapsed sidebar has no place. -/
structure Panes where
  header : Area
  sidebar : Option Area
  search : Area
  table : Area
  footer : Area
  status : Area
  deriving DecidableEq, Repr

namespace Panes

/-- How wide the sidebar is. -/
def sidebarWidth : Nat := 26

/-- The parts of a screen. -/
def ofScreen (screen : Area) (collapsed : Bool) : Panes :=
  let (header, middle, status) := screen.rows 3 1 2
  let (sidebar, main) :=
    if collapsed then (none, middle)
    else
      let (sidebar, main, _) := middle.columns sidebarWidth 1 0
      (some sidebar, main)
  let (search, table, footer) := main.rows 3 3 1
  ⟨header, sidebar, search, table, footer, status⟩

end Panes

/-- The inside of the table: the columns with the data, of which the first line holds the headings,
and the column with the buttons that open the menus of the rows. -/
structure TableAreas where
  body : Area
  triggers : Area
  deriving DecidableEq, Repr

namespace TableAreas

/-- How wide the column with the buttons is. -/
def triggerWidth : Nat := 4

/-- The inside of a table. -/
def ofPane (pane : Area) : TableAreas :=
  let (_, body, triggers) := pane.inner.columns 0 1 triggerWidth
  ⟨body, triggers⟩

/-- The row of the table on a line of the screen. -/
def rowAt? (t : TableAreas) (line : Nat) : Option Nat :=
  if t.body.y < line ∧ line < t.body.bottom then some (line - t.body.y - 1) else none

/-- The button of a row. -/
def triggerButton (t : TableAreas) (row : Nat) : Rect :=
  ⟨t.body.y + 1 + row, t.triggers.x, t.triggers.width, 1⟩

end TableAreas

end PitchDesk
