import PitchDesk.Forest
import PitchDesk.Record.Basic

/-!
# The sidebar

The menu beside the list views: a forest of entries whose groups can be folded, and a cursor on one
of the entries that are visible. Groups are folded by name, so groups of one name fold together. A
folded group hides everything below it.

The visible lines are worked out from the forest each time, so there is no state but what is folded
and where the cursor is. The cursor is a number and not a line: what it is on changes when lines
above it come or go. Another menu is shown from its first line with all groups unfolded.
-/

namespace PitchDesk

namespace Sidebar

/-- One line of the sidebar. -/
structure Entry where
  code : String
  title : String
  path : String
  icon : String
  depth : Nat
  isGroup : Bool
  expanded : Bool
  deriving DecidableEq, Repr

/-- The list view that an entry leads to. -/
def Entry.view? (e : Entry) : Option Resource :=
  Resource.ofRoute? e.path

/-- The line of a node. -/
def entryOf (folded : List String) (depth : Nat) (t : Tree MenuRecord) : Entry where
  code := t.label.name
  title := t.label.title
  path := t.label.path
  icon := t.label.icon
  depth := depth
  isGroup := t.isGroup
  expanded := !folded.contains t.label.name

mutual

/-- The visible lines of a tree. -/
def visibleTree (folded : List String) (depth : Nat) : Tree MenuRecord → List Entry
  | .node r ts =>
    entryOf folded depth (.node r ts) ::
      if folded.contains r.name then [] else visibleForest folded (depth + 1) ts

/-- The visible lines of a forest. -/
def visibleForest (folded : List String) (depth : Nat) : Forest MenuRecord → List Entry
  | [] => []
  | t :: ts => visibleTree folded depth t ++ visibleForest folded depth ts

end

end Sidebar

/-- The menu of a session, whether the pane is collapsed, which groups are folded, and the line that
the cursor is on. -/
structure Sidebar where
  menu : Forest MenuRecord
  collapsed : Bool
  folded : List String
  cursor : Nat
  deriving Repr

namespace Sidebar

/-- A sidebar whose groups are all unfolded, with the cursor on its first line. -/
def ofMenu (menu : Forest MenuRecord) (collapsed : Bool) : Sidebar :=
  ⟨menu, collapsed, [], 0⟩

/-- A sidebar without a menu. -/
def empty : Sidebar := ofMenu [] false

/-- Shows another menu from its first line. -/
def replaceMenu (s : Sidebar) (menu : Forest MenuRecord) : Sidebar :=
  { s with menu := menu, folded := [], cursor := 0 }

/-- Collapses the pane or brings it back. -/
def toggleCollapsed (s : Sidebar) : Sidebar :=
  { s with collapsed := !s.collapsed }

/-- The lines that are visible, in order. -/
def visible (s : Sidebar) : List Entry :=
  visibleForest s.folded 0 s.menu

/-- The line that the cursor is on. -/
def selected? (s : Sidebar) : Option Entry :=
  s.visible[s.cursor]?

/-- Moves the cursor by some lines, but not past the first or the last. -/
def moveCursor (s : Sidebar) (delta : Int) : Sidebar :=
  { s with cursor := min (s.cursor + delta).toNat (s.visible.length - 1) }

/-- Puts a name into an ordered list of names. -/
def insertName (name : String) : List String → List String
  | [] => [name]
  | n :: ns => if name < n then name :: n :: ns else n :: insertName name ns

/-- Folds a group, or unfolds it. The folded names stand in order, so that the same groups are
always folded by the same list. -/
def toggleFolded (folded : List String) (name : String) : List String :=
  if folded.contains name then folded.erase name else insertName name folded

/-- Folds or unfolds the group under the cursor, if there is one. -/
def toggleExpanded? (s : Sidebar) : Option Sidebar :=
  match s.selected? with
  | some e => if e.isGroup then some { s with folded := toggleFolded s.folded e.code } else none
  | none => none

/-- Puts the cursor on the first visible line that leads to a view, if there is one. -/
def selectView? (s : Sidebar) (view : Resource) : Option Sidebar :=
  (s.visible.findIdx? fun e ↦ e.view? == some view).map fun i ↦ { s with cursor := i }

/-- The distinct elements of a list, in the order in which they first occur. -/
def firstOccurrences {α : Type} [BEq α] (xs : List α) : List α :=
  xs.foldl (fun seen x ↦ if seen.contains x then seen else seen ++ [x]) []

/-- The list views that some entry leads to, in order, whether it is visible or not. -/
def routableViews (s : Sidebar) : List Resource :=
  firstOccurrences (s.menu.flatten.filterMap fun r ↦ Resource.ofRoute? r.path)

end Sidebar

end PitchDesk
