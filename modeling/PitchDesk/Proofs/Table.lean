import Mathlib.Data.List.Basic
import PitchDesk.Table.Views

/-!
# The row that a record holds

A record of a list view holds a row of the kind that the view lists. It has the cells of its row,
and it is identified by the text of the key field, as rows are unless their kind says otherwise.
Menus do say otherwise: a menu is identified by its id, or by its name if it has none. The record
of a menu knows nothing of that, `Record.rowKey_menu`. So the table of the menus tells two menus
apart by their ids alone, and two menus without an id not at all, `Record.keys_of_rows`.

What identifies a row is a method of its kind with a default, and a record of any kind forwards the
cells of its row to the table but takes the default for what identifies it. For seven of the eight
kinds that makes no difference, which is what the first two parts of the statement say for every
key field; the third looks at a whole table, where it does.
-/

namespace PitchDesk

/-- The kind of row that a list view lists. -/
def Resource.Row : Resource → Type
  | .events => Event
  | .vendors => Vendor
  | .submissions => Submission
  | .evaluations => Evaluation
  | .payments => Payment
  | .users => User
  | .roles => RoleRecord
  | .menus => MenuRecord

instance Resource.tableRow : (v : Resource) → TableRow v.Row
  | .events => inferInstanceAs (TableRow Event)
  | .vendors => inferInstanceAs (TableRow Vendor)
  | .submissions => inferInstanceAs (TableRow Submission)
  | .evaluations => inferInstanceAs (TableRow Evaluation)
  | .payments => inferInstanceAs (TableRow Payment)
  | .users => inferInstanceAs (TableRow User)
  | .roles => inferInstanceAs (TableRow RoleRecord)
  | .menus => inferInstanceAs (TableRow MenuRecord)

/-- The texts that identify the rows that a table shows. -/
def TableView.keys : TableView → List String
  | .rows _ shown => shown.map (·.key)
  | .loading | .empty _ => []

/-- A table that is shown identifies its rows by the key field. -/
theorem TableSpec.keys_render {ρ : Type} [TableRow ρ] (t : TableSpec ρ) (rows : List ρ) :
    (t.render rows false).keys = rows.map (TableRow.rowKey · t.keyField) := by
  cases rows with
  | nil => rfl
  | cons row rows =>
    simp only [render, TableView.keys, List.isEmpty_cons, Bool.false_eq_true, if_false,
      List.map_map]
    rfl

namespace Record

/-- The row that a record holds. -/
def row : (r : Record) → r.resource.Row
  | .event row => row
  | .vendor row => row
  | .submission row => row
  | .evaluation row => row
  | .payment row => row
  | .user row => row
  | .role row => row
  | .menu row => row

/-- A record has the cells of its row. -/
theorem field?_row (r : Record) (key : String) :
    TableRow.field? r key = TableRow.field? r.row key := by
  cases r <;> rfl

/-- A record is identified by the text of the key field. So are the rows of all kinds but menus. -/
theorem rowKey_eq_iff (r : Record) (key : String) :
    TableRow.rowKey r key = TableRow.rowKey r.row key ↔
      ∀ m, r = .menu m →
        ((TableRow.field? m key).map Cell.display).getD "" = TableRow.rowKey m key := by
  cases r with
  | menu m =>
    constructor
    · rintro h m' ⟨⟩
      exact h
    · exact fun h ↦ h m rfl
  | _ => exact iff_of_true rfl nofun

/-- A menu is identified by its id or else by its name, whatever the key field is. -/
theorem rowKey_menuRecord (m : MenuRecord) (key : String) :
    TableRow.rowKey m key = (m.id.map fun id ↦ toString id.toInt).getD m.name := by
  cases hid : m.id <;> simp [TableRow.rowKey, hid]

/-- A missing id has the empty text. -/
theorem text_id (m : MenuRecord) :
    ((TableRow.field? m "id").map Cell.display).getD "" =
      (m.id.map fun id ↦ toString id.toInt).getD "" := by
  cases hid : m.id <;> simp [TableRow.field?, Cell.ofId, Cell.display, hid]

/-- The record of a menu is identified by its id or else by the empty text. -/
theorem rowKey_menu (m : MenuRecord) :
    TableRow.rowKey (Record.menu m) "id" = (m.id.map fun id ↦ toString id.toInt).getD "" :=
  text_id m

/-- By its id a record is identified as its row is, unless that is a menu with a name and no id. -/
theorem rowKey_id_eq_iff (r : Record) :
    TableRow.rowKey r "id" = TableRow.rowKey r.row "id" ↔
      ∀ m, r = .menu m → m.id ≠ none ∨ m.name = "" := by
  rw [rowKey_eq_iff]
  refine forall₂_congr fun m _ ↦ ?_
  rw [text_id, rowKey_menuRecord]
  cases m.id <;> simp

theorem text_ne_empty (n : Int64) : toString n.toInt ≠ "" := by
  rw [Int.toString_eq_repr, Int.repr_eq_if]
  split <;> simp [Nat.repr_ne_empty]

/-- Records of menus that differ in what identifies them can be told apart unless neither menu has
an id. -/
theorem rowKey_menu_ne_iff {m m' : MenuRecord}
    (h : TableRow.rowKey m "id" ≠ TableRow.rowKey m' "id") :
    TableRow.rowKey (Record.menu m) "id" ≠ TableRow.rowKey (Record.menu m') "id" ↔
      m.id ≠ none ∨ m'.id ≠ none := by
  rw [rowKey_menuRecord, rowKey_menuRecord] at h
  rw [rowKey_menu, rowKey_menu]
  cases hid : m.id with
  | none =>
    cases hid' : m'.id with
    | none => simp
    | some id' => simpa using (text_ne_empty id').symm
  | some id =>
    cases hid' : m'.id with
    | none => simpa using text_ne_empty id
    | some id' => simpa [hid, hid'] using h

/-- **A record has the cells of its row, and is identified as its row is unless that is a menu
without an id.**
1. Every field of a record is that of the row that it holds.
2. A record and its row are identified by the same text unless the row is a menu that the text of
   the key field does not identify. For the ids, that is a menu with a name and no id.
3. On a page of menus that can be told apart, the rows of the table of the menus can be told apart
   exactly if no two of the menus lack an id. -/
theorem keys_of_rows (r : Record) (key : String) {page : List MenuRecord}
    (hpage : (page.map (TableRow.rowKey · "id")).Nodup) :
    TableRow.field? r key = TableRow.field? r.row key ∧
    ((TableRow.rowKey r key = TableRow.rowKey r.row key ↔
      ∀ m, r = .menu m →
        ((TableRow.field? m key).map Cell.display).getD "" = TableRow.rowKey m key) ∧
    (TableRow.rowKey r "id" = TableRow.rowKey r.row "id" ↔
      ∀ m, r = .menu m → m.id ≠ none ∨ m.name = "")) ∧
    ((Resource.menus.table.render (page.map .menu) false).keys.Nodup ↔
      page.Pairwise fun m m' ↦ m.id ≠ none ∨ m'.id ≠ none) := by
  refine ⟨field?_row r key, ⟨rowKey_eq_iff r key, rowKey_id_eq_iff r⟩, ?_⟩
  have hkeys := List.pairwise_map.1 hpage
  rw [TableSpec.keys_render, List.map_map, List.nodup_iff_pairwise_ne, List.pairwise_map]
  constructor
  · exact hkeys.imp₂ fun m m' h ↦ (rowKey_menu_ne_iff h).1
  · exact hkeys.imp₂ fun m m' h ↦ (rowKey_menu_ne_iff h).2

/-- Three menus can be told apart in their table, even if one of them has no id. -/
theorem menus_with_ids_have_keys :
    let page : List MenuRecord :=
      [⟨some 1, "events", "", "/events", "", none, 1⟩,
       ⟨none, "vendors", "", "/vendors", "", some 1, 2⟩,
       ⟨some 2, "vendors", "", "/vendors", "", none, 3⟩]
    (page.map (TableRow.rowKey · "id")).Nodup ∧
      (Resource.menus.table.render (page.map .menu) false).keys.Nodup := by
  intro page
  have hpage : (page.map (TableRow.rowKey · "id")).Nodup := by decide
  have hkeys := (keys_of_rows (.menu ⟨none, "", "", "", "", none, 0⟩) "id" hpage).2.2
  exact ⟨hpage, hkeys.2 (by decide)⟩

/-- Two menus without an id are told apart by their names, but their records by nothing. -/
theorem menus_without_id_share_key :
    let events : MenuRecord := ⟨none, "events", "", "/events", "", none, 1⟩
    let vendors : MenuRecord := ⟨none, "vendors", "", "/vendors", "", none, 2⟩
    ([events, vendors].map (TableRow.rowKey · "id")).Nodup ∧
      (TableRow.rowKey (Record.menu events) "id" = "" ∧ TableRow.rowKey events "id" = "events") ∧
      (Resource.menus.table.render [.menu events, .menu vendors] false).keys = ["", ""] := by
  decide

end Record

end PitchDesk
