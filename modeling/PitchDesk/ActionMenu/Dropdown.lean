import PitchDesk.ActionMenu.Basic
import PitchDesk.ActionMenu.Placement

/-!
# The open menu

At most one menu is open at a time: the menu of one row, at a place, with one of its items
highlighted. How many items it has is noted when it opens.

The open menu does not hold its items. They are worked out anew from the row when one of them is
chosen, and whoever chooses hands the menu over; what is noted is only how many there were when it
opened, because that is how high it was drawn. That both agree whenever something is chosen is a
fact about the desk and not about the dropdown.
-/

namespace PitchDesk

/-- A menu that is open. -/
structure OpenMenu where
  row : Nat
  position : MenuPosition
  highlighted : Nat
  items : Nat
  deriving DecidableEq, Repr

namespace OpenMenu

/-- Whether a point lies on the menu, borders included. -/
def contains (m : OpenMenu) (row col : Int) : Bool :=
  m.position.rect.contains row col

/-- The item that a point lies on. The upper half of the padding comes before the first item. -/
def itemAt? (m : OpenMenu) (row col : Int) (metrics : MenuMetrics) : Option Nat :=
  if !m.contains row col then none
  else
    let offset := row - m.position.rect.top - metrics.padding.tdiv 2
    if offset < 0 ∨ metrics.itemHeight ≤ 0 then none
    else
      let index := (offset / metrics.itemHeight).toNat
      if index < m.items then some index else none

end OpenMenu

/-- The menu that is open, if one is. -/
abbrev Dropdown : Type := Option OpenMenu

namespace Dropdown

variable {α : Type}

/-- The row whose menu is open. -/
def row? (d : Dropdown) : Option Nat :=
  d.map (·.row)

/-- Opens the menu of a row. A menu without items closes what was open instead. -/
def opening (row : Nat) (menu : ActionMenu α) (button viewport : Rect) (metrics : MenuMetrics) :
    Dropdown :=
  if menu.isEmpty then none
  else some ⟨row, .beside button viewport menu.size metrics, 0, menu.size⟩

/-- Opens the menu of a row, or closes it if it is the one that is open. -/
def toggle (d : Dropdown) (row : Nat) (menu : ActionMenu α) (button viewport : Rect)
    (metrics : MenuMetrics) : Dropdown :=
  if d.row? = some row then none else opening row menu button viewport metrics

/-- Moves the highlight by some items, but not past the first or the last. -/
def moveHighlight (d : Dropdown) (menu : ActionMenu α) (delta : Int) : Dropdown :=
  d.map fun m ↦
    if menu.isEmpty then m
    else { m with highlighted := min (m.highlighted + delta).toNat (menu.size - 1) }

/-- The action of an item of the open menu. Choosing closes the menu. -/
def select? (d : Dropdown) (menu : ActionMenu α) (index : Nat) : Option α :=
  d.bind fun _ ↦ (menu.items[index]?).map (·.action)

/-- The action of the highlighted item. -/
def selectHighlighted? (d : Dropdown) (menu : ActionMenu α) : Option α :=
  d.bind fun m ↦ select? d menu m.highlighted

/-- Whether a point lies on the open menu. -/
def contains (d : Dropdown) (row col : Int) : Bool :=
  d.any (·.contains row col)

/-- The item of the open menu that a point lies on. -/
def itemAt? (d : Dropdown) (row col : Int) (metrics : MenuMetrics) : Option Nat :=
  d.bind (·.itemAt? row col metrics)

end Dropdown

end PitchDesk
