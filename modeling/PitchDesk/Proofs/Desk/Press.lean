import PitchDesk.Proofs.ActionMenu
import PitchDesk.Proofs.Desk.Tidy
import PitchDesk.Proofs.Screen.Panes

/-!
# Presses while a menu is open

The menu of a row is drawn over everything else, and a press is looked up in it first. What is then
done with the press is decided once more by where it is, and there the sidebar comes first. So a
press on the menu is for the menu, unless the sidebar reaches below it, `Opening.press_on_menu`; on
a screen that is wide enough it does not.

A press beside the menu closes it, unless it is in the column with the buttons of the rows. There
it is taken for a press on a button even on lines below the last row, `Opening.press_beside_menu`.

## Two lookups

A press is looked up twice: `TableAreas.target` says what it means for the table, with the menu on
top, and that decides only whether the menu stays open; then the panes of the screen say who takes
it. Each way to combine the two answers is a lemma of its own, `press_in_sidebar`, `press_in_table`
and `menu_press_of_not_keepsMenu`, and the main statements only tell which one applies. They speak
of every point of a session, since `Tidy` is what makes the row of the menu one that is shown and
its items those of that row.
-/

namespace PitchDesk

namespace TableAreas

variable {t : TableAreas} {m : OpenMenu} {column row : Nat}

/-- The row of the table that has its button at a cell of the screen, whether the table has that
many rows or not. -/
def buttonAt? (t : TableAreas) (column row : Nat) : Option Nat :=
  if t.triggers.contains column row then t.rowAt? row else none

/-- A press that is not on a button keeps no menu open. -/
theorem keepsMenu_targetBelow (h : t.buttonAt? column row = none) :
    (t.targetBelow column row).keepsMenu = false := by
  unfold targetBelow
  split
  · rename_i i hrow
    have htriggers : ¬t.triggers.contains column row = true := fun htriggers ↦ by
      rw [buttonAt?, if_pos htriggers, hrow] at h
      cases h
    rw [if_neg htriggers]
    split <;> rfl
  · split <;> rfl

/-- A press in the column with the buttons is taken for one on a button. -/
theorem targetBelow_of_buttonAt? {i : Nat} (h : t.buttonAt? column row = some i) :
    t.targetBelow column row = .actionTrigger i := by
  obtain ⟨htriggers, hrow⟩ := Option.ite_none_right_eq_some.1 h
  simp only [targetBelow, hrow, if_pos htriggers]

end TableAreas

namespace Desk

variable {o : Oracle} {a : Answers} {d : Desk} {m : OpenMenu} {v : Resource} {column row : Nat}

/-! ### What handlers leave alone -/

/-- What an item of a menu says lies over the screen, or is a notice; all else stays as it is. -/
theorem exists_runAction_eq (d : Desk) (row : Nat) (action : RowAction) :
    ∃ detail upload confirm notice token, (d.runAction row action).desk =
      { d with
        detail := detail
        upload := upload
        confirm := confirm
        workspace := { d.workspace with notice := notice }
        noticeToken := token } := by
  unfold runAction
  split
  · exact ⟨_, _, _, _, _, rfl⟩
  · split
    · exact ⟨_, _, _, _, _, rfl⟩
    · dsimp only
      split
      · unfold openDetail
        split <;> exact ⟨_, _, _, _, _, rfl⟩
      · split <;> exact ⟨_, _, _, _, _, rfl⟩
      · split <;> exact ⟨_, _, _, _, _, rfl⟩
      all_goals exact ⟨_, _, _, _, _, rfl⟩

/-- Opening the detail of a row leaves the menu alone. -/
theorem menu_openDetail (d : Desk) (v : Resource) (row : Nat) :
    (d.openDetail v row).menu = d.menu := by
  unfold openDetail
  split <;> rfl

/-- A view that opens has no open menu. -/
theorem menu_switchView (hmenu : d.menu = none) (v : Resource) :
    (switchView o a d v).desk.menu = none := by
  dsimp only [switchView]
  split
  · unfold ask fetch
    split <;> rfl
  · exact hmenu

theorem menu_activateEntry (hmenu : d.menu = none) : (d.activateEntry o a).desk.menu = none := by
  unfold activateEntry
  split
  · exact hmenu
  · split
    · exact hmenu
    · split
      · exact menu_switchView hmenu _
      · exact hmenu

theorem menu_pressSidebar (hmenu : d.menu = none) (area : Area) (row : Nat) :
    (d.pressSidebar o a area row).desk.menu = none := by
  dsimp only [pressSidebar]
  split
  · exact hmenu
  · split
    · exact menu_activateEntry hmenu
    · exact hmenu

/-- Only a press on the menu or on a button changes which menu is open. -/
theorem menu_pressTable {target : ClickTarget} (h : target.keepsMenu = false) (v : Resource) :
    (d.pressTable v target).desk.menu = d.menu := by
  cases target with
  | actionTrigger => cases h
  | actionItem => cases h
  | actionMenu => cases h
  | header => rfl
  | outside => rfl
  | rowBody i =>
    unfold pressTable
    split
    · exact menu_openDetail _ _ _
    · rename_i hclick
      unfold TableSpec.click? at hclick
      dsimp only at hclick
      split at hclick <;> simp at hclick
    · rename_i hclick
      unfold TableSpec.click? at hclick
      dsimp only at hclick
      split at hclick <;> simp at hclick
    · dsimp only
      split <;> rfl

/-! ### Where a press goes -/

/-- Beside an open menu nothing lies over the screen that could take a press. -/
theorem Tidy.overlay_eq_none (hd : d.Tidy) (hm : d.menu = some m) : d.overlay = none :=
  List.getLast?_eq_none_iff.2 (overlays_eq_nil_of_menu hd.openCount hm)

/-- The sidebar takes a press that keeps the menu open like any other. -/
theorem press_in_sidebar {target : ClickTarget} (hfree : d.overlay = none)
    (htarget : (TableAreas.ofPane d.panes.table).target d.menu column row = target)
    (hkeeps : target.keepsMenu = true) {area : Area} (harea : d.panes.sidebar = some area)
    (hin : area.contains column row = true) :
    d.press o a column row = d.pressSidebar o a area row := by
  have hsome : d.panes.sidebar.filter (·.contains column row) = some area := by
    rw [harea, Option.filter_some, if_pos hin]
  simp [press, hfree, htarget, hkeeps, hsome]

/-- A press that keeps the menu open and is beside the sidebar is one in the table. -/
theorem press_in_table {target : ClickTarget} (hfree : d.overlay = none)
    (htarget : (TableAreas.ofPane d.panes.table).target d.menu column row = target)
    (hkeeps : target.keepsMenu = true)
    (hside : ∀ area, d.panes.sidebar = some area → area.contains column row = false)
    (hv : d.workspace.view = some v) :
    d.press o a column row = d.pressTable v target := by
  have hnone : d.panes.sidebar.filter (·.contains column row) = none := by
    rw [Option.filter_eq_none_iff]
    exact fun area harea ↦ by simp [hside area harea]
  simp [press, hfree, htarget, hkeeps, hnone, hv]

/-- A press that keeps no menu open is met by a desk without one, which opens none. -/
theorem menu_press_of_not_keepsMenu {target : ClickTarget} (hfree : d.overlay = none)
    (htarget : (TableAreas.ofPane d.panes.table).target d.menu column row = target)
    (hkeeps : target.keepsMenu = false) : (d.press o a column row).desk.menu = none := by
  have hoverlay : ¬d.overlay.isSome = true := by simp [hfree]
  dsimp only [press]
  rw [if_neg hoverlay, htarget, if_neg (by simp [hkeeps])]
  split
  · exact menu_pressSidebar (d := d.closeMenu) rfl _ row
  · exact menu_pressTable hkeeps _
  · rfl

/-! ### Presses on the menu -/

/-- The menu comes before what lies below it. -/
theorem target_actionItem {item : Nat} (t : TableAreas) (hon : m.contains row column = true)
    (hitem : m.itemAt? row column .cells = some item) :
    t.target (some m) column row = .actionItem m.row item := by
  simp [TableAreas.target, hon, hitem]

/-- A press on the border of the menu is for the menu too. -/
theorem target_actionMenu (t : TableAreas) (hon : m.contains row column = true)
    (hitem : m.itemAt? row column .cells = none) :
    t.target (some m) column row = .actionMenu m.row := by
  simp [TableAreas.target, hon, hitem]

/-- What a press on the menu is for is never a row. -/
theorem click?_ne_rowClicked (t : TableAreas) (hon : m.contains row column = true)
    (rows : List Record) (v : Resource) (i : Nat) (key : String) :
    v.table.click? rows (t.target (some m) column row) ≠ some (.rowClicked i key) := by
  cases hitem : m.itemAt? row column .cells with
  | none =>
    rw [target_actionMenu t hon hitem]
    rintro ⟨⟩
  | some item =>
    rw [target_actionItem t hon hitem]
    simp only [TableSpec.click?]
    split <;> rintro ⟨⟩

/-- The item that a press is on belongs to the row of the menu, and is run. -/
theorem Tidy.press_on_item {item : Nat} (hd : d.Tidy) (hm : d.menu = some m)
    (hon : m.contains row column = true) (hitem : m.itemAt? row column .cells = some item)
    (hside : ∀ area, d.panes.sidebar = some area → area.contains column row = false) :
    ∃ v caps r i, d.workspace.view = some v ∧ d.capabilities = some caps ∧
      (d.rows v)[m.row]? = some r ∧ (r.actions caps).items[item]? = some i ∧
      d.press o a column row = d.closeMenu.runAction m.row i.action := by
  obtain ⟨v, caps, r, hv, hcaps, hr, hitems, -⟩ := hd.menu m hm
  have hlt : item < (r.actions caps).items.length :=
    (OpenMenu.lt_items_of_itemAt? hitem).trans_eq hitems
  have hchosen := List.getElem?_eq_getElem hlt
  have htarget : (TableAreas.ofPane d.panes.table).target d.menu column row =
      .actionItem m.row item := by rw [hm, target_actionItem _ hon hitem]
  refine ⟨v, caps, r, _, hv, hcaps, hr, hchosen, ?_⟩
  rw [press_in_table (hd.overlay_eq_none hm) htarget rfl hside hv]
  have hrow := (List.getElem?_eq_some_iff.1 hr).1
  simp only [pressTable, TableSpec.click?, if_pos hrow, openMenu?_eq hm hv hcaps hr]
  simp only [chooseItem, Dropdown.select?, hm, Option.bind_some, hchosen, Option.map_some]

/-- Between the border and the items there is nothing to press. -/
theorem Tidy.press_on_border (hd : d.Tidy) (hm : d.menu = some m)
    (hon : m.contains row column = true) (hitem : m.itemAt? row column .cells = none)
    (hside : ∀ area, d.panes.sidebar = some area → area.contains column row = false) :
    d.press o a column row = d.idle := by
  obtain ⟨v, -, -, hv, -⟩ := hd.menu m hm
  have htarget : (TableAreas.ofPane d.panes.table).target d.menu column row =
      .actionMenu m.row := by rw [hm, target_actionMenu _ hon hitem]
  exact press_in_table (hd.overlay_eq_none hm) htarget rfl hside hv

/-- **An open menu takes the presses on it, unless the sidebar lies below it.** At every point of a
session, whatever the size of the screen is then:
1. a press on the open menu is never taken for one on a row;
2. beside the sidebar, the item that the press is on is run and the menu closes, and on the border
   nothing happens at all; the selected row, the sidebar and the open view stay as they are;
3. where the sidebar lies below the menu, the sidebar takes the press. -/
theorem Opening.press_on_menu (s : Opening) (o : Oracle) (xs : List Occasion) (a : Answers)
    {m : OpenMenu} {column row : Nat} (hm : (s.after o xs).menu = some m)
    (hon : m.contains row column = true) :
    let d := s.after o xs
    let t := d.step o a (.mouse (.press column row))
    (∀ (v : Resource) (i : Nat) (key : String),
      v.table.click? (d.rows v) ((TableAreas.ofPane d.panes.table).target d.menu column row) ≠
        some (.rowClicked i key)) ∧
    ((∀ area, d.panes.sidebar = some area → area.contains column row = false) →
      (∀ item, m.itemAt? row column .cells = some item →
        ∃ v caps r i, d.workspace.view = some v ∧ d.capabilities = some caps ∧
          (d.rows v)[m.row]? = some r ∧ (r.actions caps).items[item]? = some i ∧
          t = d.closeMenu.runAction m.row i.action ∧ t.desk.menu = none) ∧
      (m.itemAt? row column .cells = none → t = d.idle) ∧
      t.desk.selectedRow = d.selectedRow ∧ t.desk.sidebar = d.sidebar ∧
      t.desk.workspace.view = d.workspace.view) ∧
    (∀ area, d.panes.sidebar = some area → area.contains column row = true →
      t = d.pressSidebar o a area row) := by
  intro d t
  have hd : d.Tidy := s.induction xs tidy_new fun hd h ↦ hd.move h
  -- an open menu means that nothing lies over the screen, since at most one of them is there
  have hfree : d.overlay = none := hd.overlay_eq_none hm
  refine ⟨fun v ↦ ?_, fun hside ↦ ?_, fun area harea hin ↦ ?_⟩
  · rw [show d.menu = some m from hm]
    exact click?_ne_rowClicked _ hon _ v
  · cases hitem : m.itemAt? row column .cells with
    | none =>
      have ht : t = d.idle := hd.press_on_border hm hon hitem hside
      rw [ht]
      exact ⟨nofun, fun _ ↦ rfl, rfl, rfl, rfl⟩
    | some item =>
      obtain ⟨v, caps, r, i, hv, hcaps, hr, hi, ht⟩ :=
        hd.press_on_item (o := o) (a := a) hm hon hitem hside
      obtain ⟨detail, upload, confirm, notice, token, hrun⟩ :=
        exists_runAction_eq d.closeMenu m.row i.action
      have hdesk : t.desk = _ := (congrArg Turn.desk ht).trans hrun
      rw [hdesk]
      refine ⟨fun j hj ↦ ?_, nofun, rfl, rfl, rfl⟩
      cases hj
      exact ⟨v, caps, r, i, hv, hcaps, hr, hi, ht, rfl⟩
  · cases hitem : m.itemAt? row column .cells with
    | none =>
      exact press_in_sidebar hfree (by rw [hm, target_actionMenu _ hon hitem]) rfl harea hin
    | some item =>
      exact press_in_sidebar hfree (by rw [hm, target_actionItem _ hon hitem]) rfl harea hin

/-- The menu that is open in the sample session once its second item is highlighted. -/
def sampleMenu : OpenMenu := ⟨0, ⟨⟨9, 57, 22, 4⟩, false⟩, 1, 2⟩

/-- A press on the second item of an event's menu does what it says, which is to delete the
event. -/
theorem Opening.pressed_item_is_run :
    let d := sampleOpening.after sampleOracle sampleChoice
    let t := d.step sampleOracle sampleAnswers (.mouse (.press 60 11))
    d.menu = some sampleMenu ∧ sampleMenu.contains (11 : Nat) (60 : Nat) = true ∧
      sampleMenu.itemAt? (11 : Nat) (60 : Nat) .cells = some 1 ∧
      t = d.closeMenu.runAction 0 .delete ∧ t.desk.menu = none := by
  intro d t
  have hside (area : Area) (harea : d.panes.sidebar = some area) : area.contains 60 11 = false := by
    obtain rfl : (⟨0, 3, 26, 19⟩ : Area) = area := Option.some.inj harea
    rfl
  have hon : sampleMenu.contains (11 : Nat) (60 : Nat) = true := rfl
  obtain ⟨-, hbeside, -⟩ :=
    sampleOpening.press_on_menu sampleOracle sampleChoice sampleAnswers rfl hon
  obtain ⟨v, caps, r, i, hv, hcaps, hr, hi, ht, hmenu⟩ := (hbeside hside).1 1 rfl
  cases hv
  cases hcaps
  cases hr
  cases hi
  exact ⟨rfl, hon, rfl, ht, hmenu⟩

/-- A session of an administrator whose menu has three views. -/
def narrowOpening : Opening :=
  { sampleOpening with
    menu :=
      ⟨.server,
        [.node (Sample.menuRecord 1 "events" "/events" none 1) [],
          .node (Sample.menuRecord 2 "vendors" "/vendors" none 2) [],
          .node (Sample.menuRecord 3 "payments" "/payments" none 3) []]⟩ }

/-- The screen is narrow, an event comes, and its menu is opened. -/
def narrowChoice : List Occasion :=
  [.measured 40 14,
    .news (.loaded .events 1
      (.ok ⟨[.event ⟨7, "Gala", "Austin", Sample.firstDay, none, .opened, 0⟩], some 1, some 1⟩)),
    .key ⟨.char '.', false, false, false⟩].map (⟨sampleAnswers, ·⟩)

/-- On a narrow screen the menu reaches over the sidebar. A press there on the item that deletes the
event opens the payments instead, and nothing is asked. -/
theorem Opening.sidebar_takes_press_on_item :
    let o := (Sample.rootSession .admin).oracle
    let d := narrowOpening.after o narrowChoice
    let t := d.step o sampleAnswers (.mouse (.press 20 6))
    ∃ m menu, d.menu = some m ∧ m.contains 6 20 = true ∧ m.itemAt? 6 20 .cells = some 3 ∧
      d.openMenu? = some (0, menu) ∧ menu.items[3]?.map (·.action) = some .delete ∧
      d.workspace.view = some .events ∧ t.desk.workspace.view = some .payments ∧
      t.desk.sidebar.cursor ≠ d.sidebar.cursor ∧ t.desk.confirm = none := by
  refine ⟨⟨0, ⟨⟨2, 17, 22, 6⟩, true⟩, 0, 4⟩, _, rfl, rfl, rfl, rfl, rfl, rfl, rfl, ?_, rfl⟩
  decide +kernel

/-! ### Presses beside the menu -/

/-- A press on the button of a row that the table does not have does nothing. -/
theorem Tidy.press_on_button {i : Nat} (hd : d.Tidy) (hm : d.menu = some m)
    (hbeside : m.contains row column = false)
    (hbutton : (TableAreas.ofPane d.panes.table).buttonAt? column row = some i)
    (hrow : ∀ v, d.workspace.view = some v → (d.rows v).length ≤ i) :
    d.press o a column row = d.idle := by
  obtain ⟨v, -, -, hv, -⟩ := hd.menu m hm
  have htarget : (TableAreas.ofPane d.panes.table).target d.menu column row = .actionTrigger i := by
    simp [TableAreas.target, hm, hbeside, TableAreas.targetBelow_of_buttonAt? hbutton]
  have hside (area : Area) (harea : d.panes.sidebar = some area) :
      area.contains column row = false := by
    rw [← Bool.not_eq_true]
    intro hin
    have htriggers := Panes.contains_triggers_eq_false harea hin
    rw [TableAreas.buttonAt?, if_neg (by exact Bool.not_eq_true _ ▸ htriggers)] at hbutton
    cases hbutton
  rw [press_in_table (hd.overlay_eq_none hm) htarget rfl hside hv]
  simp only [pressTable, TableSpec.click?, if_neg (Nat.not_lt.2 (hrow v hv))]

/-- **A press beside the open menu closes it, unless it is in the column with the buttons.** At
every point of a session, whatever the size of the screen is then, a press that is neither on the
open menu nor on the button of a row that is shown closes the menu, except on the lines of that
column where the table has no rows: there nothing happens at all. -/
theorem Opening.press_beside_menu (s : Opening) (o : Oracle) (xs : List Occasion) (a : Answers)
    {m : OpenMenu} {column row : Nat} (hm : (s.after o xs).menu = some m)
    (hbeside : m.contains row column = false)
    (hrow : ∀ v i, (s.after o xs).workspace.view = some v →
      (TableAreas.ofPane (s.after o xs).panes.table).buttonAt? column row = some i →
        ((s.after o xs).rows v).length ≤ i) :
    let d := s.after o xs
    let t := d.step o a (.mouse (.press column row))
    (t.desk.menu = none ↔ (TableAreas.ofPane d.panes.table).buttonAt? column row = none) ∧
    ((TableAreas.ofPane d.panes.table).buttonAt? column row ≠ none → t = d.idle) := by
  intro d t
  have hd : d.Tidy := s.induction xs tidy_new fun hd h ↦ hd.move h
  cases hbutton : (TableAreas.ofPane d.panes.table).buttonAt? column row with
  | none =>
    have htarget : (TableAreas.ofPane d.panes.table).target d.menu column row =
        (TableAreas.ofPane d.panes.table).targetBelow column row := by
      simp [TableAreas.target, show d.menu = some m from hm, hbeside]
    have hclosed : t.desk.menu = none := menu_press_of_not_keepsMenu (hd.overlay_eq_none hm)
      htarget (TableAreas.keepsMenu_targetBelow hbutton)
    exact ⟨iff_of_true hclosed rfl, fun h ↦ absurd rfl h⟩
  | some i =>
    have hidle : t = d.idle := hd.press_on_button hm hbeside hbutton fun v hv ↦ hrow v i hv hbutton
    have hopen : t.desk.menu = some m := by
      rw [hidle]
      exact hm
    exact ⟨iff_of_false (by simp [hopen]) nofun, fun _ ↦ hidle⟩

/-- A press on the header closes the menu of an event. -/
theorem Opening.press_on_header_closes_menu :
    (sampleOpening.after sampleOracle sampleChoice).menu = some sampleMenu ∧
      sampleMenu.contains (0 : Nat) (1 : Nat) = false ∧
      (TableAreas.ofPane
        (sampleOpening.after sampleOracle sampleChoice).panes.table).buttonAt? 1 0 = none ∧
      ((sampleOpening.after sampleOracle sampleChoice).step sampleOracle sampleAnswers
        (.mouse (.press 1 0))).desk.menu = none := by
  have hbutton : (TableAreas.ofPane
      (sampleOpening.after sampleOracle sampleChoice).panes.table).buttonAt? 1 0 = none := rfl
  have hbeside : sampleMenu.contains (0 : Nat) (1 : Nat) = false := rfl
  obtain ⟨hclosed, -⟩ :=
    sampleOpening.press_beside_menu sampleOracle sampleChoice sampleAnswers rfl hbeside
      fun _ _ _ hi ↦ absurd (hbutton.symm.trans hi) nofun
  exact ⟨rfl, hbeside, hbutton, hclosed.2 hbutton⟩

/-- The table has one row, and its menu is open. A press in the column with the buttons, seven lines
below the last row, leaves the menu open. -/
theorem Opening.press_below_last_button_keeps_menu :
    let d := sampleOpening.after sampleOracle sampleChoice
    d.menu = some sampleMenu ∧ sampleMenu.contains (15 : Nat) (76 : Nat) = false ∧
      (d.rows .events).length = 1 ∧
      (TableAreas.ofPane d.panes.table).buttonAt? 76 15 = some 7 ∧
      (d.step sampleOracle sampleAnswers (.mouse (.press 76 15))).desk.menu = some sampleMenu :=
  ⟨rfl, rfl, rfl, rfl, rfl⟩

end Desk

end PitchDesk
