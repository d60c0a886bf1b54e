import PitchDesk.Screen.Area

/-!
# The parts of the screen lie side by side

Dividing an area puts its parts next to each other, and a border only takes away from an area. So
the header and the search field end where the table begins, the footer and the status line begin
where it ends, and whatever is in the table begins where the sidebar ends. No press is in both,
`Panes.contains_triggers_eq_false`, however small the screen is. The menu of a row is no such part:
it is placed by its right edge, and on a narrow screen it reaches over the sidebar,
`Panes.right_sidebar_le_left_iff`.

All this holds for every size of the screen, also where there is no room for the lengths that the
parts should have. How a length is divided then is `Area.shares`; of its result nothing is used but
that the parts take the whole length (`Area.shares_eq`) and, for the width of the sidebar, what it
is on a screen of some width.
-/

namespace PitchDesk

namespace Area

theorem contains_iff {a : Area} {column row : Nat} :
    a.contains column row = true ↔
      (a.x ≤ column ∧ column < a.right) ∧ a.y ≤ row ∧ row < a.bottom := by
  simp [contains, and_assoc]

theorem isEmpty_eq_false {a : Area} {column row : Nat} (h : a.contains column row = true) :
    a.isEmpty = false := by
  simp only [contains_iff, right, bottom] at h
  simp only [isEmpty, Bool.or_eq_false_iff, beq_eq_false_iff_ne]
  omega

/-- What is left inside a border does not begin before it. -/
theorem x_le_inner (a : Area) : a.x ≤ a.inner.x :=
  Nat.le_min.2 ⟨Nat.le_succ _, Nat.le_add_right _ _⟩

/-- The last of three columns does not begin before the area that is divided. -/
theorem x_le_columns (a : Area) (first least last : Nat) :
    a.x ≤ (a.columns first least last).2.2.x :=
  Nat.le_trans (Nat.le_add_right _ _) (Nat.le_add_right _ _)

/-- What a length is divided into takes all of it. -/
theorem shares_eq (first least last total : Nat) :
    (shares first least last total).1 + (shares first least last total).2.1 +
      (shares first least last total).2.2 = total := by
  simp only [shares]
  omega

/-- The first two of three rows end in the area that is divided. -/
theorem bottom_rows_le (a : Area) (first least last : Nat) :
    (a.rows first least last).2.1.bottom ≤ a.bottom := by
  have hall := shares_eq first least last a.height
  rcases hparts : shares first least last a.height with ⟨f, m, l⟩
  simp only [hparts, rows, bottom] at hall ⊢
  omega

/-! ### Areas in areas -/

/-- Every cell of an area is in another. -/
def Within (a b : Area) : Prop :=
  ∀ x y, a.contains x y = true → b.contains x y = true

/-- What is inside the border of an area is not at its edges. -/
theorem lt_of_inner_contains {a : Area} {x y : Nat} (h : a.inner.contains x y = true) :
    (a.x < x ∧ x + 1 < a.right) ∧ a.inner.y ≤ y ∧ y + 1 < a.bottom ∧ a.inner.y = a.y + 1 := by
  simp only [contains_iff, inner, right, bottom] at h ⊢
  omega

/-- What is inside the border of an area lies in it. -/
theorem inner_within (a : Area) : a.inner.Within a := by
  intro x y h
  have hborder := lt_of_inner_contains h
  rw [contains_iff]
  omega

/-- The second and the third of three columns lie in the area that is divided. -/
theorem columns_within (a : Area) (first least last : Nat) :
    (a.columns first least last).2.1.Within a ∧ (a.columns first least last).2.2.Within a := by
  have hall := shares_eq first least last a.width
  rcases hparts : shares first least last a.width with ⟨f, m, l⟩
  constructor <;> intro x y h <;>
    simp only [hparts, contains_iff, columns, right, bottom] at hall h ⊢ <;> omega

end Area

namespace Panes

/-- The table begins where the sidebar ends. -/
theorem right_sidebar {screen area : Area} {collapsed : Bool}
    (h : (ofScreen screen collapsed).sidebar = some area) :
    area.right = (ofScreen screen collapsed).table.x := by
  cases collapsed with
  | true => cases h
  | false =>
    cases h
    rfl

/-- From top to bottom the parts of a screen lie one below another. -/
theorem bottom_header_le (screen : Area) (collapsed : Bool) :
    (ofScreen screen collapsed).header.bottom ≤ (ofScreen screen collapsed).table.y := by
  cases collapsed <;> exact Nat.le_add_right _ _

theorem bottom_search (screen : Area) (collapsed : Bool) :
    (ofScreen screen collapsed).search.bottom = (ofScreen screen collapsed).table.y := by
  cases collapsed <;> rfl

theorem y_footer (screen : Area) (collapsed : Bool) :
    (ofScreen screen collapsed).footer.y = (ofScreen screen collapsed).table.bottom := by
  cases collapsed <;> rfl

theorem bottom_table_le (screen : Area) (collapsed : Bool) :
    (ofScreen screen collapsed).table.bottom ≤ (ofScreen screen collapsed).status.y := by
  cases collapsed <;> exact Area.bottom_rows_le _ 3 3 1

/-- The buttons of the rows begin inside the table. -/
theorem x_le_triggers (pane : Area) : pane.x ≤ (TableAreas.ofPane pane).triggers.x :=
  Nat.le_trans pane.x_le_inner (pane.inner.x_le_columns _ _ _)

/-- **No press is both in the sidebar and on the buttons of the rows.** -/
theorem contains_triggers_eq_false {screen area : Area} {collapsed : Bool} {column row : Nat}
    (h : (ofScreen screen collapsed).sidebar = some area)
    (hpress : area.contains column row = true) :
    (TableAreas.ofPane (ofScreen screen collapsed).table).triggers.contains column row = false := by
  have hleft : column < area.right := (Area.contains_iff.1 hpress).1.2
  have hright := x_le_triggers (ofScreen screen collapsed).table
  rw [← right_sidebar h] at hright
  rw [← Bool.not_eq_true, Area.contains_iff]
  omega

/-- **A menu that opens beside its button stands clear of the sidebar exactly on screens of at least
49 columns**: those of the sidebar, of the menu and of the margin beside it. -/
theorem right_sidebar_le_left_iff {width height : Nat} {area : Area} (row items : Nat)
    (h : (ofScreen ⟨0, 0, width, height⟩ false).sidebar = some area) :
    (area.right : Int) ≤
        (MenuPosition.beside
          ((TableAreas.ofPane (ofScreen ⟨0, 0, width, height⟩ false).table).triggerButton row)
          (Area.toRect ⟨0, 0, width, height⟩) items .cells).rect.left ↔
      49 ≤ width := by
  cases h
  simp only [ofScreen, Bool.false_eq_true, if_false, Area.rows, Area.columns, Area.shares,
    sidebarWidth, TableAreas.ofPane, TableAreas.triggerButton, TableAreas.triggerWidth, Area.inner,
    Area.right, Area.toRect, MenuPosition.beside, MenuMetrics.cells, Rect.right]
  omega

end Panes

end PitchDesk
