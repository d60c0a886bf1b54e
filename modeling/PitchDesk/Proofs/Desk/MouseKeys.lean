import PitchDesk.Proofs.Desk.Press
import PitchDesk.Proofs.Desk.Typing
import PitchDesk.Proofs.Screen.Sidebar

/-!
# What is pressed can be typed

A press is looked up on the screen, and a key goes to the part that has the focus. Where both are
for the same thing they lead to the same turn: a press on an item of the open menu is the enter key
once the highlight is on that item; presses on the button and on the line of the selected row are
the keys for its menu and its detail; a press on an entry of the sidebar is the enter key once the
cursor is there. The desks agree down to the selected row, the notice and its number, and so does
what is asked of the outside.

The turns are equal and not only alike, since key and press end in one handler: what has to be
shown is that the press is looked up as the place that the key stands on, and that the keys which
move there leave everything else alone (`PitchDesk.Proofs.Desk.Typing`). `Tidy` is needed for the
menu only, where the press is checked against the row that the menu belongs to.
-/

namespace PitchDesk

open Area

namespace Desk

variable {o : Oracle} {a : Answers} {d : Desk} {k : Key} {m : OpenMenu} {column line i : Nat}

/-! ### Items of the open menu -/

/-- The highlight may be on any item. -/
theorem Tidy.highlight (hd : d.Tidy) (hm : d.menu = some m) (hi : i < m.items) :
    (d.highlight m i).Tidy where
  openCount := openCount_le_one_of_imp hd.openCount id id id fun _ ↦ by rw [hm, Option.isSome_some]
  selectedRow := hd.selectedRow
  menu n hn := by
    cases hn
    obtain ⟨v, caps, r, hv, hcaps, hr, hitems, -⟩ := hd.menu m hm
    exact ⟨v, caps, r, hv, hcaps, hr, hitems, hi⟩
  collapsed := hd.collapsed

/-- The enter key chooses the highlighted item as a press chooses the one it is on. -/
theorem Tidy.key_enter_eq_press (hd : d.Tidy) (hm : d.menu = some m)
    (hitem : m.itemAt? line column .cells = some i)
    (hside : ∀ area, d.panes.sidebar = some area → area.contains column line = false)
    (hk : k.code = .enter) : (d.highlight m i).key o a k = d.press o a column line := by
  obtain ⟨v, caps, r, item, hv, hcaps, hr, hi, hpress⟩ :=
    hd.press_on_item (o := o) (a := a) hm (OpenMenu.contains_of_itemAt? hitem) hitem hside
  have hopen : (d.highlight m i).openMenu? = some (m.row, r.actions caps) :=
    openMenu?_eq (m := { m with highlighted := i }) rfl hv hcaps hr
  rw [hpress, (hd.highlight hm (OpenMenu.lt_items_of_itemAt? hitem)).key_enter
    (m := { m with highlighted := i }) rfl hopen hi hk]
  rfl

/-! ### The selected row -/

/-- A cell of the table is no cell of the sidebar. -/
theorem filter_sidebar_eq_none (h : d.panes.table.contains column line = true) :
    d.panes.sidebar.filter (·.contains column line) = none := by
  rw [Option.filter_eq_none_iff]
  intro area harea
  have hright : area.right = d.panes.table.x := Panes.right_sidebar harea
  have hleft := (contains_iff.1 h).1.1
  rw [contains_iff]
  omega

/-- A press on the button of the selected row is the key for its menu. -/
theorem key_eq_press_of_button (hfree : d.overlay = none) (hmenu : d.menu = none)
    (hfocus : d.workspace.focus = .table)
    (hbutton : (TableAreas.ofPane d.panes.table).buttonAt? column line = some d.selectedRow)
    (hk : k.code = .char 'a') : d.key o a k = d.press o a column line := by
  have htriggers := (Option.ite_none_right_eq_some.1 hbutton).1
  have htable := inner_within _ _ _ (TableAreas.triggers_within _ _ _ htriggers)
  rw [press_eq hfree hmenu, filter_sidebar_eq_none htable,
    TableAreas.targetBelow_of_buttonAt? hbutton]
  cases hv : d.workspace.view with
  | none => simp [key, freeKey, tableKey, hk, hfree, hmenu, hfocus, hv]
  | some v =>
    have htoggle : d.key o a k = d.toggleMenu v d.selectedRow := by
      simp [key, freeKey, tableKey, viewKey, hk, hfree, hmenu, hfocus, hv]
    rw [htoggle]
    by_cases hlt : d.selectedRow < (d.rows v).length
    · exact (pressTable_actionTrigger hlt).symm
    · -- there is no such row
      have hnone : (d.rows v)[d.selectedRow]? = none := List.getElem?_eq_none (Nat.not_lt.1 hlt)
      have hidle : d.pressTable v (.actionTrigger d.selectedRow) = d.idle :=
        pressTable_eq_idle hmenu (by simpa using hlt)
      simp [toggleMenu, hnone, hidle]

/-- A press on the line of the selected row is the enter key. -/
theorem key_eq_press_of_row (hfree : d.overlay = none) (hmenu : d.menu = none)
    (hfocus : d.workspace.focus = .table)
    (hrow : (TableAreas.ofPane d.panes.table).rowAt? line = some d.selectedRow)
    (hbody : (TableAreas.ofPane d.panes.table).body.contains column line = true)
    (hk : k.code = .enter) : d.key o a k = d.press o a column line := by
  have htable := inner_within _ _ _ (TableAreas.body_within _ _ _ hbody)
  have htarget : (TableAreas.ofPane d.panes.table).targetBelow column line =
      .rowBody d.selectedRow := by
    simp [TableAreas.targetBelow, hrow, hbody, TableAreas.triggers_contains_eq_false hbody]
  rw [press_eq hfree hmenu, filter_sidebar_eq_none htable, htarget]
  cases hv : d.workspace.view with
  | none => simp [key, freeKey, tableKey, hk, hfree, hmenu, hfocus, hv]
  | some v =>
    have henter : d.key o a k = d.viewKey a v k := by
      simp [key, freeKey, tableKey, hk, hfree, hmenu, hfocus, hv]
    rw [henter]
    -- the detail opens if the view is for that and there is such a row
    by_cases hclick : v.table.rowClick = true <;>
      cases hr : (d.rows v)[d.selectedRow]? <;>
        simp [viewKey, pressTable, TableSpec.click?, hk, hclick, hr]

/-! ### Entries of the sidebar -/

/-- While the sidebar has the focus, the keys for moving move its cursor from line to line. -/
theorem strides_pointTo (hfree : d.overlay = none) (hmenu : d.menu = none)
    (hfocus : d.workspace.focus = .sidebar) :
    Strides o a d.pointTo (d.sidebar.visible.length - 1) := by
  intro i k δ hk
  have hop : k.sidebarOp? = some (.moveCursor δ) :=
    Key.sidebarOp?_eq_some_iff.2 (.inr ⟨δ, rfl, hk⟩)
  exact key_of_sidebarOp? (d := d.pointTo i) hfree hmenu hfocus hop

/-- **What is pressed can be typed.** At every point of a session, while nothing lies over the
screen:
1. a press on an item of the open menu, beside the sidebar, is the enter key after keys that move
   the highlight to that item, and there are such keys;
2. while no menu is open and the table has the focus, a press on the button of the selected row is
   the key for the menu of the row, and a press on its line is the enter key, whether there is such
   a row or not;
3. while no menu is open and the sidebar has the focus, a press on the line of an entry is the enter
   key after keys that move the cursor to that entry, and there are such keys. -/
theorem Opening.press_eq_keys (s : Opening) (o : Oracle) (xs : List Occasion) (a : Answers)
    (column line : Nat) (hfree : (s.after o xs).overlay = none) :
    let d := s.after o xs
    let t := d.step o a (.mouse (.press column line))
    (∀ m i, d.menu = some m → m.itemAt? line column .cells = some i →
      (∀ area, d.panes.sidebar = some area → area.contains column line = false) →
        EntersAt o a d (fun d' ↦ d'.menu.map (·.highlighted) = some i) t) ∧
    (d.menu = none → d.workspace.focus = .table →
      ((TableAreas.ofPane d.panes.table).buttonAt? column line = some d.selectedRow →
        ∀ k, k.code = .char 'a' → d.step o a (.key k) = t) ∧
      ((TableAreas.ofPane d.panes.table).rowAt? line = some d.selectedRow →
        (TableAreas.ofPane d.panes.table).body.contains column line = true →
          ∀ k, k.code = .enter → d.step o a (.key k) = t)) ∧
    (d.menu = none → d.workspace.focus = .sidebar →
      ∀ area i e, d.panes.sidebar = some area → area.contains column line = true →
        d.sidebar.visible[i]? = some e → line = area.y + (i + 1) →
          EntersAt o a d (fun d' ↦ d'.sidebar.cursor = i) t) := by
  intro d t
  have hd : d.Tidy := s.induction xs tidy_new fun hd h ↦ hd.move h
  refine ⟨fun m i hm hitem hside ↦ ?_, fun hmenu hfocus ↦ ⟨?_, ?_⟩, ?_⟩
  -- the keys that move the highlight reach every item, and at the right one enter is the press
  · have hstrides := (hd.menu m hm).strides (o := o) (a := a) hfree
    have hi : i ≤ m.items - 1 := Nat.le_sub_one_of_lt (OpenMenu.lt_items_of_itemAt? hitem)
    have henters := hstrides.entersAt (P := fun d' ↦ d'.menu.map (·.highlighted) = some i)
      m.highlighted hi (fun j ↦ by simp [Desk.highlight])
      fun k hk ↦ hd.key_enter_eq_press hm hitem hside hk
    rwa [highlight_highlighted hm] at henters
  · exact fun hbutton k hk ↦ key_eq_press_of_button hfree hmenu hfocus hbutton hk
  · exact fun hrow hbody k hk ↦ key_eq_press_of_row hfree hmenu hfocus hrow hbody hk
  · intro hmenu hfocus area i e harea hin he hline
    have hlt := (List.getElem?_eq_some_iff.1 he).1
    have hpress : d.press o a column line = (d.pointTo i).activateEntry o a := by
      rw [press_eq_pressSidebar hfree hmenu harea hin, hline, pressSidebar_of_entry hlt]
    have hstrides := strides_pointTo (o := o) (a := a) hfree hmenu hfocus
    refine hstrides.entersAt d.sidebar.cursor (Nat.le_sub_one_of_lt hlt) (fun j ↦ Iff.rfl)
      fun k hk ↦ ?_
    exact (key_enter_of_sidebar (d := d.pointTo i) hfree hmenu hfocus hk).trans hpress.symm

/-- An event comes, and then the focus goes back to the sidebar. -/
def backToSidebar : List Occasion :=
  sampleChoice.take 1 ++ typed sampleAnswers (List.replicate 2 ⟨.backTab, false, false, false⟩)

/-- In the sample session the second item of the open menu can be chosen by two keys or by a press;
so can the menu of the event be opened, and the event's view be opened again from the sidebar. -/
theorem Opening.keys_delete_what_press_deletes :
    let d := sampleOpening.after sampleOracle (sampleChoice.take 2)
    let d' := sampleOpening.after sampleOracle (sampleChoice.take 1)
    let d'' := sampleOpening.after sampleOracle backToSidebar
    let key (code : KeyCode) : Key := ⟨code, false, false, false⟩
    play sampleOracle d (typed sampleAnswers [key .down, key .enter]) =
        d.step sampleOracle sampleAnswers (.mouse (.press 60 11)) ∧
      d'.step sampleOracle sampleAnswers (.key (key (.char 'a'))) =
        d'.step sampleOracle sampleAnswers (.mouse (.press 76 8)) ∧
      play sampleOracle d'' (typed sampleAnswers [key .enter]) =
        d''.step sampleOracle sampleAnswers (.mouse (.press 5 4)) := by
  intro d d' d'' key
  have hside (area : Area) (harea : d.panes.sidebar = some area) : area.contains 60 11 = false := by
    obtain rfl : (⟨0, 3, 26, 19⟩ : Area) = area := Option.some.inj harea
    rfl
  obtain ⟨hitem, -, -⟩ := sampleOpening.press_eq_keys sampleOracle (sampleChoice.take 2)
    sampleAnswers 60 11 rfl
  obtain ⟨-, hrow, -⟩ := sampleOpening.press_eq_keys sampleOracle (sampleChoice.take 1)
    sampleAnswers 76 8 rfl
  obtain ⟨-, -, hentry⟩ := sampleOpening.press_eq_keys sampleOracle backToSidebar
    sampleAnswers 5 4 rfl
  refine ⟨?_, ?_, ?_⟩
  · exact (hitem { sampleMenu with highlighted := 0 } 1 rfl rfl hside).2 [key .down] (by decide) rfl
      (key .enter) rfl
  · exact (hrow rfl rfl).1 rfl _ rfl
  · exact (hentry rfl rfl ⟨0, 3, 26, 19⟩ 0 _ rfl rfl rfl rfl).2 [] nofun rfl (key .enter) rfl

end Desk

end PitchDesk
