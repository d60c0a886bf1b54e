/-!
# Action menus

The menu of a row: its items with their icons, of which only those that are not hidden are kept. A
menu without items has no trigger.

What an item does is a parameter, since a menu only has to know which of its items are shown and in
which order. An item that is hidden has no place in the menu at all, so places in a menu are
counted among the items that are shown.
-/

namespace PitchDesk

/-- How an item is drawn. -/
inductive ItemVariant where
  | plain
  | danger
  deriving DecidableEq, Repr

/-- An item of a menu before it is decided which items are shown. -/
structure ActionItem (α : Type) where
  label : String
  icon : String
  action : α
  variant : ItemVariant := .plain
  hidden : Bool := false
  deriving DecidableEq, Repr

/-- The items of a menu that are shown. -/
structure ActionMenu (α : Type) where
  items : List (ActionItem α)
  deriving DecidableEq, Repr

namespace ActionMenu

variable {α : Type}

/-- The items that are not hidden. -/
def visible (items : List (ActionItem α)) : List (ActionItem α) :=
  items.filter fun i ↦ !i.hidden

/-- The menu of the items that are not hidden. -/
def ofItems (items : List (ActionItem α)) : ActionMenu α :=
  ⟨visible items⟩

/-- How many items the menu has. -/
def size (m : ActionMenu α) : Nat :=
  m.items.length

/-- Whether the menu has no items. -/
def isEmpty (m : ActionMenu α) : Bool :=
  m.items.isEmpty

/-- The text on the button that opens the menu. -/
def trigger? (m : ActionMenu α) : Option String :=
  if m.isEmpty then none else some "..."

end ActionMenu

end PitchDesk
