import PitchDesk.Proofs.Screen.Table

/-!
# The sidebar on the screen

Every line of the menu has a line of the screen, where it is drawn if it is inside the border of
the pane. The lines that have no room are left out, and the lower edge of the border is drawn where
the first of them would be. A press is looked up by its line alone, from below the upper edge on,
so the lower edge and the edges at the sides take presses like the inside of the pane. So a press
may activate an entry that nobody sees, `Desk.pressed_entry_is_drawn`.

As for the table, drawing and looking up are separate lemmas: `spot_sidebar_of_entry` and
`spot_sidebar_of_border` for what is seen, `pressSidebar_of_entry` and `pressSidebar_of_no_entry`
for what a press does. There is no scrolling, so the first line of the pane is always that of the
first entry, and the number of an entry is the distance of its line from the upper edge.
-/

namespace PitchDesk

open Area Canvas

variable {a : Area} {c : Canvas} {d : Desk} {x y : Nat}

namespace Panes

/-- The sidebar is between the header and the status line, and beside everything else. -/
theorem beside_sidebar {screen area : Area} {collapsed : Bool}
    (h : (ofScreen screen collapsed).sidebar = some area) :
    (ofScreen screen collapsed).header.bottom = area.y ∧
      (ofScreen screen collapsed).search.x = area.right ∧
      (ofScreen screen collapsed).footer.x = area.right ∧
      (ofScreen screen collapsed).status.y = area.bottom := by
  cases collapsed with
  | true => cases h
  | false =>
    cases h
    exact ⟨rfl, rfl, rfl, rfl⟩

end Panes

namespace Canvas

/-- Draws the border of the sidebar. -/
def sidebarFrame (c : Canvas) (a : Area) (d : Desk) : Canvas :=
  c.framed a (focusStyle (d.workspace.focus == .sidebar)) "menu"

/-- On the border nothing is drawn but the border. -/
theorem spot_sidebar_of_border (h : a.inner.contains x y = false) :
    (c.sidebar a d).spot x y = (c.sidebarFrame a d).spot x y :=
  (drawsIn_paragraph _ _).outside h

/-- On its line an entry looks as if it was drawn alone. -/
theorem spot_sidebar_of_entry {i : Nat} {e : Sidebar.Entry} (he : d.sidebar.visible[i]? = some e)
    (h : a.inner.contains x y = true) (hy : y = a.inner.y + i) :
    (c.sidebar a d).spot x y =
      (c.paragraph (lineArea a.inner i) [entryLine d i e]).spot x y := by
  obtain rfl : i = y - a.inner.y := by omega
  have hline : (d.sidebar.visible.zipIdx.map fun k ↦ entryLine d k.2 k.1)[y - a.inner.y]? =
      some (entryLine d (y - a.inner.y) e) := by
    simp [he]
  exact (spot_paragraph_of_line h hline).trans
    ((drawsIn_paragraph _ _).congr (spot_framed_of_inner h _ _))

end Canvas

namespace Desk

/-- While nothing lies over the screen, nothing but the sidebar is seen where the sidebar is. -/
theorem spot_draw_of_sidebar (hfree : d.overlay = none) (hmenu : d.menu = none) {area : Area}
    (harea : d.panes.sidebar = some area) (h : area.contains x y = true) :
    d.draw.spot x y = (Canvas.blank.sidebar area d).spot x y := by
  obtain ⟨hheader, hsearch, hfooter, hstatus⟩ : d.panes.header.bottom = area.y ∧
      d.panes.search.x = area.right ∧ d.panes.footer.x = area.right ∧
        d.panes.status.y = area.bottom := Panes.beside_sidebar harea
  have htable : d.panes.table.x = area.right := (Panes.right_sidebar harea).symm
  obtain ⟨⟨-, hright⟩, htop, hbottom⟩ := contains_iff.1 h
  -- no other part of the screen has the cell
  have hbeside {b : Area} (hb : b.x = area.right) : b.contains x y = false := by
    rw [← Bool.not_eq_true, contains_iff]
    omega
  have habove : d.panes.header.contains x y = false := by
    rw [← Bool.not_eq_true, contains_iff]
    omega
  have hbelow : d.panes.status.contains x y = false := by
    rw [← Bool.not_eq_true, contains_iff]
    omega
  unfold draw
  simp only [overlays_eq_nil hfree, List.foldl_nil, Canvas.menu, hmenu, harea, Option.elim_some]
  rw [(drawsIn_status _ d).outside hbelow, (drawsIn_paragraph _ _).outside (hbeside hfooter),
    (drawsIn_table _ d).outside (hbeside htable),
    (drawsIn_search _ d).outside (hbeside hsearch)]
  exact (drawsIn_sidebar area d).congr ((drawsIn_header _ _).outside habove)

/-! ### Presses on entries -/

/-- The desk with the cursor of the sidebar on some line. -/
def pointTo (d : Desk) (i : Nat) : Desk :=
  { d with sidebar := { d.sidebar with cursor := i } }

variable {o : Oracle} {answers : Answers} {area : Area} {column line i : Nat}

/-- Moved by the distance to a line, the cursor is on that line, or on the last one before it. -/
theorem moveCursor_sub (s : Sidebar) (i : Nat) :
    s.moveCursor ((i : Int) - s.cursor) = { s with cursor := min i (s.visible.length - 1) } := by
  have hsum : (s.cursor + ((i : Int) - s.cursor)).toNat = i := by omega
  rw [Sidebar.moveCursor, hsum]

/-- A press activates the entry on its line, counted from below the upper edge. -/
theorem pressSidebar_of_entry (hlt : i < d.sidebar.visible.length) :
    d.pressSidebar o answers area (area.y + (i + 1)) = (d.pointTo i).activateEntry o answers := by
  have hindex : area.y + (i + 1) - area.y - 1 = i := by omega
  have hcursor : min i (d.sidebar.visible.length - 1) = i := by omega
  simp only [pressSidebar, hindex, moveCursor_sub, hcursor]
  rw [if_neg (by omega), if_pos trivial, pointTo]

/-- On the upper edge a press does nothing, and below the last entry it moves the cursor there. -/
theorem pressSidebar_of_no_entry
    (hline : ∀ i, line = area.y + (i + 1) → d.sidebar.visible.length ≤ i) :
    d.pressSidebar o answers area line = d.idle ∨
      d.pressSidebar o answers area line = (d.pointTo (d.sidebar.visible.length - 1)).idle := by
  by_cases htop : line ≤ area.y
  · exact .inl (by simp only [pressSidebar, if_pos htop])
  · have hle : d.sidebar.visible.length ≤ line - area.y - 1 := hline _ (by omega)
    have hcursor : min (line - area.y - 1) (d.sidebar.visible.length - 1) =
        d.sidebar.visible.length - 1 := by omega
    refine .inr ?_
    simp only [pressSidebar, if_neg htop, moveCursor_sub, hcursor]
    split
    · -- only without entries is the cursor where the press was
      rename_i hindex
      have hnone : (d.pointTo (d.sidebar.visible.length - 1)).sidebar.selected? = none :=
        List.getElem?_eq_none (by show d.sidebar.visible.length ≤ _; omega)
      show activateEntry o answers (d.pointTo _) = _
      rw [activateEntry, hnone]
    · rfl

/-- While nothing is open, a press in the pane of the sidebar is for the sidebar. -/
theorem press_eq_pressSidebar (hfree : d.overlay = none) (hmenu : d.menu = none)
    (harea : d.panes.sidebar = some area) (hin : area.contains column line = true) :
    d.press o answers column line = d.pressSidebar o answers area line := by
  rw [press_eq hfree hmenu, harea, Option.filter_some, if_pos hin]

/-- **A press in the sidebar activates the entry on its line, which is drawn there unless the line
is the lower edge of the border.** Whatever the size of the screen, while nothing lies over it and
no menu is open:
1. a press on a line that no entry has activates nothing, though it may move the cursor to the last
   entry;
2. a press on the line of an entry activates it. Inside the border the entry and nothing else is
   drawn on that line, unless it is the lower edge, where the border is drawn in its place;
3. where a press is on the border, the border is drawn and no entry, whether the press activates one
   or not. -/
theorem pressed_entry_is_drawn (o : Oracle) (answers : Answers) (hfree : d.overlay = none)
    (hmenu : d.menu = none) (harea : d.panes.sidebar = some area)
    (hin : area.contains column line = true) :
    ((∀ i, line = area.y + (i + 1) → d.sidebar.visible.length ≤ i) →
      d.press o answers column line = d.idle ∨
        d.press o answers column line = (d.pointTo (d.sidebar.visible.length - 1)).idle) ∧
    (∀ i e, d.sidebar.visible[i]? = some e → line = area.y + (i + 1) →
      d.press o answers column line = (d.pointTo i).activateEntry o answers ∧
        ∀ x, area.x < x → x + 1 < area.right →
          d.draw.spot x line =
            if line + 1 < area.bottom then
              (Canvas.blank.paragraph (lineArea area.inner i) [entryLine d i e]).spot x line
            else (Canvas.blank.sidebarFrame area d).spot x line) ∧
    (area.inner.contains column line = false →
      d.draw.spot column line = (Canvas.blank.sidebarFrame area d).spot column line) := by
  have hborder {x : Nat} (hx : area.contains x line = true)
      (hout : area.inner.contains x line = false) :
      d.draw.spot x line = (Canvas.blank.sidebarFrame area d).spot x line :=
    (spot_draw_of_sidebar hfree hmenu harea hx).trans (spot_sidebar_of_border hout)
  rw [press_eq_pressSidebar hfree hmenu harea hin]
  refine ⟨pressSidebar_of_no_entry, fun i e he hline ↦ ?_, hborder hin⟩
  obtain ⟨hlt, -⟩ := List.getElem?_eq_some_iff.1 he
  obtain ⟨-, htop, hbottom⟩ := contains_iff.1 hin
  refine ⟨by rw [hline, pressSidebar_of_entry hlt], fun x hleft hright ↦ ?_⟩
  have hx : area.contains x line = true := contains_iff.2 ⟨⟨hleft.le, by omega⟩, htop, hbottom⟩
  -- the last line of the pane is its border; a press there is still taken for an entry
  have hinner : area.inner.contains x line = true ↔ line + 1 < area.bottom := by
    simp only [contains_iff, Area.inner, right, bottom] at hleft hright hbottom ⊢
    omega
  split
  · rename_i hinside
    have hy : line = area.inner.y + i := by
      simp only [Area.inner, bottom] at hinside ⊢
      omega
    rw [spot_draw_of_sidebar hfree hmenu harea hx]
    exact spot_sidebar_of_entry he (hinner.2 hinside) hy
  · rename_i hedge
    exact hborder hx (Bool.not_eq_true _ ▸ fun hin ↦ hedge (hinner.1 hin))

/-- The menu has three entries, and the screen is so low that only two of them have room. -/
def lowScreen : List Occasion :=
  [⟨sampleAnswers, .measured 80 9⟩]

/-- A press on the second entry activates it, and it is drawn there. -/
theorem second_entry_is_drawn_where_pressed :
    let o := (Sample.rootSession .admin).oracle
    let d := narrowOpening.after o lowScreen
    d.overlay = none ∧ d.menu = none ∧ d.panes.sidebar = some ⟨0, 3, 26, 4⟩ ∧
      (⟨0, 3, 26, 4⟩ : Area).contains 5 5 = true ∧
      ∃ e, d.sidebar.visible[1]? = some e ∧ e.title = "vendors" ∧
        d.press o sampleAnswers 5 5 = (d.pointTo 1).activateEntry o sampleAnswers ∧
        ∀ x, 0 < x → x + 1 < 26 →
          d.draw.spot x 5 =
            (Canvas.blank.paragraph (lineArea ⟨1, 4, 24, 2⟩ 1) [entryLine d 1 e]).spot x 5 := by
  intro o d
  have hfree : d.overlay = none := by decide +kernel
  have hmenu : d.menu = none := by decide +kernel
  have harea : d.panes.sidebar = some ⟨0, 3, 26, 4⟩ := by decide +kernel
  have hin : (⟨0, 3, 26, 4⟩ : Area).contains 5 5 = true := rfl
  have he : d.sidebar.visible[1]? =
      some ⟨"vendors", "vendors", "/vendors", "", 0, false, true⟩ := by decide +kernel
  obtain ⟨-, hentry, -⟩ := pressed_entry_is_drawn o sampleAnswers hfree hmenu harea hin
  obtain ⟨hpress, hdrawn⟩ := hentry 1 _ he rfl
  have hinside : 5 + 1 < (⟨0, 3, 26, 4⟩ : Area).bottom := by decide
  simp only [if_pos hinside] at hdrawn
  exact ⟨hfree, hmenu, harea, hin, _, he, rfl, hpress, hdrawn⟩

/-- The third entry has no room and is nowhere to be seen, but a press on the lower edge opens it.
A press on the edge at the side opens the entry beside it. -/
theorem lower_edge_opens_unseen_entry :
    let o := (Sample.rootSession .admin).oracle
    let d := narrowOpening.after o lowScreen
    let lineOf (y : Nat) : List String := (List.range 12).map fun x ↦ (d.draw.spot x y).symbol
    d.overlay = none ∧ d.menu = none ∧ d.panes.sidebar = some ⟨0, 3, 26, 4⟩ ∧
      d.workspace.view = some .events ∧
      lineOf 4 = ["│", " ", " ", "e", "v", "e", "n", "t", "s", " ", " ", " "] ∧
      lineOf 5 = ["│", " ", " ", "v", "e", "n", "d", "o", "r", "s", " ", " "] ∧
      lineOf 6 = ["└", "─", "─", "─", "─", "─", "─", "─", "─", "─", "─", "─"] ∧
      (d.step o sampleAnswers (.mouse (.press 5 6))).desk.workspace.view = some .payments ∧
      (d.step o sampleAnswers (.mouse (.press 0 5))).desk.workspace.view = some .vendors := by
  refine ⟨?_, ?_, ?_, ?_, ?_, ?_, ?_, ?_, ?_⟩ <;> decide +kernel

end Desk

end PitchDesk
