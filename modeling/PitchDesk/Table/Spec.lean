import PitchDesk.Table.Cell

/-!
# Tables

A table shows some columns of rows whose fields have names. The same description that draws a table
also says what a click on it means; a click inside the menu of a row never reaches the row itself.

Rows are known by the names of their fields (`TableRow`), so most columns of a table are told by a
name alone, and a field that a row does not have is an empty cell and no fault. What identifies a
row is a method with a default, which a kind of row may override.
-/

namespace PitchDesk

/-- A kind of row whose fields are known by name. -/
class TableRow (ρ : Type) where
  /-- The cell of a field. -/
  field? : ρ → String → Option Cell
  /-- The text that identifies a row, by default the text of the key field. -/
  rowKey : ρ → String → String := fun row keyField ↦
    ((field? row keyField).map Cell.display).getD ""

/-- How a column finds its cell. -/
inductive Accessor (ρ : Type) where
  | field (name : String)
  | derived (cell : ρ → Cell)

/-- The cell of a row in a column; a field that the row does not have leaves it empty. -/
def Accessor.resolve {ρ : Type} [TableRow ρ] (a : Accessor ρ) (row : ρ) : Cell :=
  match a with
  | .field name => (TableRow.field? row name).getD .empty
  | .derived cell => cell row

/-- A column with its heading. -/
structure Column (ρ : Type) where
  header : String
  accessor : Accessor ρ

/-- The cells of a row, with the text that identifies it. -/
structure RenderedRow where
  key : String
  cells : List Cell
  deriving DecidableEq, Repr

/-- What a table shows. -/
inductive TableView where
  | loading
  | empty (message : String)
  | rows (header : List String) (rows : List RenderedRow)
  deriving DecidableEq, Repr

/-- Where a click lands in a table. -/
inductive ClickTarget where
  | header
  | rowBody (row : Nat)
  /-- The button that opens the menu of a row. -/
  | actionTrigger (row : Nat)
  | actionItem (row item : Nat)
  /-- The border or padding of the open menu of a row. -/
  | actionMenu (row : Nat)
  | outside
  deriving DecidableEq, Repr

/-- What a click on a table means. -/
inductive TableClick where
  | rowClicked (row : Nat) (key : String)
  | toggleActions (row : Nat)
  | actionChosen (row item : Nat)
  deriving DecidableEq, Repr

/-- The description of a table. -/
structure TableSpec (ρ : Type) where
  columns : List (Column ρ)
  keyField : String
  emptyMessage : String := "no data"
  rowClick : Bool := false

namespace TableSpec

variable {ρ : Type} [TableRow ρ]

/-- The headings. -/
def headers (t : TableSpec ρ) : List String :=
  t.columns.map (·.header)

/-- The cells of one row. -/
def renderRow (t : TableSpec ρ) (row : ρ) : RenderedRow :=
  ⟨TableRow.rowKey row t.keyField, t.columns.map (·.accessor.resolve row)⟩

/-- What the table shows for some rows. -/
def render (t : TableSpec ρ) (rows : List ρ) (loading : Bool) : TableView :=
  if loading then .loading
  else if rows.isEmpty then .empty t.emptyMessage
  else .rows t.headers (rows.map t.renderRow)

/-- What a click means. -/
def click? (t : TableSpec ρ) (rows : List ρ) : ClickTarget → Option TableClick
  | .rowBody i =>
    if t.rowClick then
      (rows[i]?).map fun row ↦ .rowClicked i (TableRow.rowKey row t.keyField)
    else none
  | .actionTrigger i => if i < rows.length then some (.toggleActions i) else none
  | .actionItem i item => if i < rows.length then some (.actionChosen i item) else none
  | .actionMenu _ | .header | .outside => none

end TableSpec

end PitchDesk
