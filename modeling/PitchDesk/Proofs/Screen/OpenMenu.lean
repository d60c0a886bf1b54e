import PitchDesk.Proofs.ActionMenu
import PitchDesk.Proofs.Desk.Tidy
import PitchDesk.Proofs.RowAction
import PitchDesk.Proofs.Screen.Canvas

/-!
# The open menu on the screen

The menu of a row is drawn as far as it lies on the screen: what lies above the first line is cut
off, and the items are drawn from below the border that is left. A press is looked up in the menu
as it would be without the screen's edges. The two agree as long as nothing is cut off at the top,
and otherwise a press on an item is taken for one as many items further on as lines are cut off,
`Desk.drawn_item_is_hit_iff`. Where a menu is cut off at the sides or at the bottom does not
matter.

A menu opens upward whenever there is too little room below its button, so it is cut off at the top
when there is too little room above it either. That takes a screen of at most ten lines.

The screen may have another size when the press comes than when the menu was opened, so the
statement is about the place that the menu was given then and any screen now. That eleven lines are
enough rests on where the table is and on how many items a menu has: there are eight lines above the
button of any row then, `Panes.eight_le_triggerButton`, and six items at most,
`Record.size_actions_le`.
-/

namespace PitchDesk

open Canvas (lineArea itemLine)

variable {m : OpenMenu} {screen : Area} {x y : Nat}

/-! ### Drawing and looking up -/

/-- A rectangle of which something is on the screen begins and ends where it does or where the
screen does. -/
theorem Area.ofRect_bounds {r : Rect} (h : (screen.ofRect r).contains x y = true) :
    (r.left ≤ (screen.ofRect r).x ∧ ((screen.ofRect r).right : Int) ≤ r.right) ∧
      ((screen.ofRect r).y : Int) = max (screen.y : Int) r.top ∧
      ((screen.ofRect r).bottom : Int) ≤ r.bottom := by
  simp only [contains_iff, ofRect, clamp, right, bottom] at h ⊢
  omega

/-- What is inside the border of a menu that is cut off is inside its border without the screen's
edges, and its lines are counted from where the menu begins on the screen. -/
theorem Area.inner_ofRect {r : Rect} (h : (screen.ofRect r).inner.contains x y = true) :
    (r.left < x ∧ (x : Int) + 1 < r.right) ∧ (y : Int) + 1 < r.bottom ∧
      (screen.ofRect r).inner.y ≤ y ∧
      ((screen.ofRect r).inner.y : Int) = max (screen.y : Int) r.top + 1 := by
  have hbounds := ofRect_bounds (inner_within _ _ _ h)
  have hborder := lt_of_inner_contains h
  omega

/-- Inside the border of a menu every line is that of an item, counted from where the menu would
begin without the screen's edges. -/
theorem OpenMenu.itemAt?_of_inner (hheight : m.position.rect.height = m.items + 2)
    (h : (screen.ofRect m.position.rect).inner.contains x y = true) :
    m.itemAt? y x .cells =
      some (y - (screen.ofRect m.position.rect).inner.y +
        (screen.y - m.position.rect.top).toNat) := by
  obtain ⟨⟨hleft, hright⟩, hbottom, hle, hy⟩ := Area.inner_ofRect h
  rw [Rect.bottom, hheight] at hbottom
  have htop : ∀ i, m.itemTop .cells i = m.position.rect.top + 1 + i := fun i ↦ by
    rw [← Int.mul_one (i : Int)]
    rfl
  refine (itemAt?_eq_some_iff_mem (by decide) (by decide)).2 ⟨?_, by omega, ?_⟩
  · exact Rect.contains_iff.2 ⟨Rect.mem_rows.2 ⟨by omega, by rw [Rect.bottom]; omega⟩, by omega,
      by omega⟩
  · rw [mem_itemRows, htop, htop]
    omega

/-- An item whose line is inside the border is drawn there, whatever lies below the menu. -/
theorem Canvas.spot_menu_of_item {c : Canvas} {d : Desk} {row i : Nat}
    {menu : ActionMenu RowAction} {item : ActionItem RowAction} (hm : d.menu = some m)
    (hmenu : d.openMenu? = some (row, menu)) (hitem : menu.items[i]? = some item)
    (h : (screen.ofRect m.position.rect).inner.contains x y = true)
    (hy : y = (screen.ofRect m.position.rect).inner.y + i) :
    (c.menu screen d).spot x y =
      (blank.paragraph (lineArea (screen.ofRect m.position.rect).inner i)
        [itemLine m.highlighted item i]).spot x y := by
  generalize hbox : screen.ofRect m.position.rect = box at *
  have hin : box.contains x y = true := box.inner_within x y h
  obtain rfl : i = y - box.inner.y := by omega
  have hline : (menu.items.zipIdx.map fun k ↦ itemLine m.highlighted k.1 k.2)[y - box.inner.y]? =
      some (itemLine m.highlighted item (y - box.inner.y)) := by
    simp [hitem]
  have hcleared : ((c.clear box).border box .plain).spot x y = blank.spot x y := by
    rw [spot_border_of_inner h]
    exact if_pos hin
  simp only [Canvas.menu, hm, hmenu, hbox, Area.isEmpty_eq_false hin, Bool.false_eq_true, if_false]
  exact (spot_paragraph_of_line h hline).trans ((drawsIn_paragraph _ _).congr hcleared)

/-- The menu is drawn last, so nothing lies over its items. -/
theorem Desk.spot_draw_of_item {d : Desk} {row i : Nat} {menu : ActionMenu RowAction}
    {item : ActionItem RowAction} (hm : d.menu = some m) (hmenu : d.openMenu? = some (row, menu))
    (hitem : menu.items[i]? = some item)
    (h : (d.viewport.ofRect m.position.rect).inner.contains x y = true)
    (hy : y = (d.viewport.ofRect m.position.rect).inner.y + i) :
    d.draw.spot x y =
      (Canvas.blank.paragraph (lineArea (d.viewport.ofRect m.position.rect).inner i)
        [itemLine m.highlighted item i]).spot x y := by
  unfold draw
  exact Canvas.spot_menu_of_item hm hmenu hitem h hy

/-! ### Where a menu opens -/

/-- The buttons of the rows are below the first line of the screen. -/
theorem Panes.y_lt_triggerButton (screen : Area) (collapsed : Bool) (row : Nat) :
    (screen.y : Int) <
      ((TableAreas.ofPane (ofScreen screen collapsed).table).triggerButton row).top := by
  cases collapsed <;>
    simp only [TableAreas.triggerButton, TableAreas.ofPane, ofScreen, Area.columns, Area.rows,
      Area.inner, Area.bottom, Bool.false_eq_true, if_true, if_false] <;> omega

/-- On a screen of eleven lines there is room for eight above the button of any row. -/
theorem Panes.eight_le_triggerButton {width height : Nat} (h : 11 ≤ height) (collapsed : Bool)
    (row : Nat) :
    8 ≤ ((TableAreas.ofPane
      (ofScreen ⟨0, 0, width, height⟩ collapsed).table).triggerButton row).top := by
  cases collapsed <;>
    simp only [TableAreas.triggerButton, TableAreas.ofPane, ofScreen, Area.columns, Area.rows,
      Area.inner, Area.bottom, Area.shares, Bool.false_eq_true, if_true, if_false] <;> omega

namespace Desk

variable {d : Desk} {v : Resource} {row : Nat}

/-- A menu that a press on a button opens stands beside the button, and nothing else changes. -/
theorem eq_of_toggleMenu (hclosed : d.menu ≠ some m)
    (hopen : (d.toggleMenu v row).desk.menu = some m) :
    ∃ caps r, d.capabilities = some caps ∧ (d.rows v)[row]? = some r ∧
      (d.toggleMenu v row).desk = { d with menu := some m } ∧ m.row = row ∧
      m.items = (r.actions caps).size ∧
      m.position = .beside ((TableAreas.ofPane d.panes.table).triggerButton row) d.viewport.toRect
        m.items .cells := by
  unfold toggleMenu at hopen ⊢
  split at hopen
  · rename_i caps r hcaps hr
    dsimp only at hopen ⊢
    split at hopen
    · exact absurd hopen hclosed
    · rename_i hsome
      rw [hcaps, hr]
      refine ⟨caps, r, rfl, rfl, ?_⟩
      simp only [idle, Dropdown.toggle, Dropdown.opening, if_neg hsome] at hopen ⊢
      split at hopen
      · cases hopen
      · rename_i hrow
        rw [if_neg hrow]
        cases hopen
        exact ⟨rfl, rfl, rfl, rfl⟩
  · exact absurd hopen hclosed

/-- **The item that is drawn is the item that is hit, as long as the menu begins on the screen.**
Let the menu of a row have been opened by a press on its button, let any of its items be
highlighted, and let the screen have any size since then.
1. On each line inside the border that the menu has on the screen, the item is drawn whose number is
   that of the line.
2. A press there is taken for the item as many items further on as lines of the menu lie above the
   screen, so it is taken for the item that is drawn exactly if there are none.
3. On the screen on which the menu was opened there are none exactly if there is room for the menu
   below its button or above, which is always so if the screen has at least eleven lines. -/
theorem drawn_item_is_hit_iff (hv : d.workspace.view = some v) (hclosed : d.menu ≠ some m)
    (hopen : (d.toggleMenu v row).desk.menu = some m) (highlighted : Nat) (screen : Area) :
    let shown : Desk :=
      { (d.toggleMenu v row).desk with
        menu := some { m with highlighted := highlighted }
        viewport := screen }
    let box := screen.ofRect m.position.rect
    let button := (TableAreas.ofPane d.panes.table).triggerButton row
    let height := m.position.rect.height
    ∃ menu, shown.openMenu? = some (row, menu) ∧
      (∀ i item x y, menu.items[i]? = some item → box.inner.contains x y = true →
        y = box.inner.y + i →
          shown.draw.spot x y =
            (Canvas.blank.paragraph (lineArea box.inner i) [itemLine highlighted item i]).spot x y ∧
          shown.menu.itemAt? y x .cells = some (i + (screen.y - m.position.rect.top).toNat) ∧
          (shown.menu.itemAt? y x .cells = some i ↔ screen.y ≤ m.position.rect.top)) ∧
      (d.viewport.y ≤ m.position.rect.top ↔
        height ≤ d.viewport.bottom - button.bottom ∨ height ≤ button.top - d.viewport.y) ∧
      (∀ w h, d.viewport = ⟨0, 0, w, h⟩ → 11 ≤ h → 0 ≤ m.position.rect.top) := by
  intro shown box button height
  obtain ⟨caps, r, hcaps, hr, hdesk, rfl, hitems, hposition⟩ := eq_of_toggleMenu hclosed hopen
  have hmenu : shown.openMenu? = some (m.row, r.actions caps) := by
    subst shown
    rw [hdesk]
    exact openMenu?_eq (m := { m with highlighted := highlighted }) rfl hv hcaps hr
  have hheight : height = m.items + 2 := by
    subst height
    rw [hposition, MenuPosition.beside, MenuMetrics.menuHeight]
    exact congrArg (· + 2) (Int.mul_one _)
  have hroom : d.viewport.y ≤ m.position.rect.top ↔
      height ≤ d.viewport.bottom - button.bottom ∨ height ≤ button.top - d.viewport.y := by
    have hbutton : (d.viewport.y : Int) < button.top := Panes.y_lt_triggerButton _ _ _
    subst height
    rw [hposition]
    refine MenuPosition.top_beside_iff (Int.le_refl 0) ?_
    exact Int.le_of_lt (Int.lt_add_one_of_le (Int.le_of_lt hbutton))
  have hshown : shown.menu = some { m with highlighted := highlighted } := rfl
  have hscreen : shown.viewport = screen := rfl
  -- the hits only depend on the position that the menu has, so the desk is forgotten from here on
  clear_value shown
  subst hscreen
  refine ⟨r.actions caps, hmenu, fun i item x y hitem hin hy ↦ ?_, hroom, fun w h hview hh ↦ ?_⟩
  · have hdrawn := spot_draw_of_item hshown hmenu hitem hin hy
    have hhit : shown.menu.itemAt? y x .cells =
        some (i + (shown.viewport.y - m.position.rect.top).toNat) := by
      rw [hshown]
      refine (OpenMenu.itemAt?_of_inner hheight hin).trans ?_
      rw [hy, Nat.add_sub_cancel_left]
    refine ⟨hdrawn, hhit, ?_⟩
    rw [hhit, Option.some_inj]
    omega
  -- six items and two borders need eight rows, and so many stand above the button of the first row
  · have hsize : m.items ≤ 6 := hitems ▸ r.size_actions_le caps
    have hbutton : 8 ≤ button.top := by
      subst button
      rw [panes, hview]
      exact Panes.eight_le_triggerButton hh _ _
    have hy : d.viewport.y = 0 := by rw [hview]
    rw [hy] at hroom
    omega

/-- The menu of an event opens below its button, on a screen of 24 lines. Its second item is hit on
the line below the first. -/
theorem item_of_event_is_hit :
    let d := sampleOpening.after sampleOracle (sampleChoice.take 1)
    let m : OpenMenu := ⟨0, ⟨⟨9, 57, 22, 4⟩, false⟩, 0, 2⟩
    d.workspace.view = some .events ∧ d.menu ≠ some m ∧
      (d.toggleMenu .events 0).desk.menu = some m ∧
      (m.itemAt? (11 : Nat) (60 : Nat) .cells = some 1 ↔ (0 : Nat) ≤ m.position.rect.top) := by
  intro d m
  have hopen : (d.toggleMenu .events 0).desk.menu = some m := by decide +kernel
  have hview : d.workspace.view = some .events := rfl
  obtain ⟨menu, hmenu, hitems, -⟩ := drawn_item_is_hit_iff hview nofun hopen 0 ⟨0, 0, 80, 24⟩
  cases hmenu
  exact ⟨hview, nofun, hopen, (hitems 1 _ 60 11 rfl rfl rfl).2.2⟩

/-- A session of an administrator that starts with the submissions. -/
def submissionsOpening : Opening :=
  { sampleOpening with
    menu := ⟨.server, [.node (Sample.menuRecord 1 "submissions" "/submissions" none 1) []]⟩ }

/-- The screen has ten lines, and a pitch comes that nobody has looked at yet. -/
def lowChoice : List Occasion :=
  [.measured 80 10,
    .news (.loaded .submissions 1
      (.ok ⟨[.submission ⟨5, 7, "Gala", 3, "Acme", "Sound", .pending, Sample.firstDay⟩], some 1,
        some 1⟩))].map (⟨sampleAnswers, ·⟩)

/-- On a screen of ten lines the menu of a pitch has no room, neither below its button nor above.
Its border is cut off, and where the item is drawn that exports the pitch, the item is hit that
deletes it. -/
theorem cut_off_menu_deletes_for_export :
    let d := submissionsOpening.after (Sample.rootSession .admin).oracle lowChoice
    let t := d.toggleMenu .submissions 0
    ∃ m menu item, d.workspace.view = some .submissions ∧ d.menu = none ∧
      t.desk.menu = some m ∧ t.desk.openMenu? = some (0, menu) ∧ menu.items[4]? = some item ∧
      item.action = .exportRow ∧
      (d.viewport.ofRect m.position.rect).inner.contains 60 5 = true ∧
      5 = (d.viewport.ofRect m.position.rect).inner.y + 4 ∧
      (List.range 8).map (fun x ↦ (t.desk.draw.spot (58 + x) 5).symbol) =
        ["=", " ", "E", "x", "p", "o", "r", "t"] ∧
      m.itemAt? (5 : Nat) (60 : Nat) .cells = some 5 ∧
      menu.items[5]?.map (·.action) = some .delete := by
  refine ⟨⟨0, ⟨⟨-1, 57, 22, 8⟩, true⟩, 0, 6⟩, _, _, rfl, rfl, rfl, rfl, rfl, rfl, rfl, rfl, ?_, rfl,
    rfl⟩
  decide +kernel

end Desk

end PitchDesk
