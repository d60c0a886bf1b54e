import PitchDesk.Proofs.Desk.Press
import PitchDesk.Proofs.Screen.Canvas

/-!
# Rows on the screen

Every row of the table has a line of the screen, where it is drawn and where it takes presses. Each
row is a layer that keeps to its line, and each part of the screen one that keeps to its pane, so
on a line of the table nothing but its row is seen, `spot_tableRows` and `Desk.spot_draw_of_table`.

A press is looked up in the rows of the list, and so it is while the list waits for an answer. Then
the table shows a message in place of the rows, which are still there, and a press works on a row
that nobody sees, `Desk.pressed_row_is_drawn_iff`.

Drawing and looking up are told apart throughout: `pressedRow?` is what a press means and never
mentions the canvas, `spot_table_of_row` and `spot_table_of_loading` are what is drawn and never
mention a press. They meet in the line of a row, which both count from the first line of the body.
A desk with something lying over it is left out, since then a press is not for the table at all.
-/

namespace PitchDesk

open Area

variable {a : Area} {c : Canvas} {d : Desk} {x y : Nat}

/-! ### Rows in layers -/

namespace Canvas

/-- Draws a row of a table on its line. -/
def tableRow (c : Canvas) (a : Area) (d : Desk) (row : RenderedRow) (i : Nat) : Canvas :=
  (c.restyle (lineArea a (i + 1)) (rowStyle d i)).tableCells (lineArea a (i + 1))
    (row.cells.map fun cell ↦ (cell.display, toneStyle cell.tone))

theorem drawsIn_tableLine (a : Area) (i : Nat) (s : Style) (cells : List (String × Style)) :
    DrawsIn (lineArea a i) fun c ↦ (c.restyle (lineArea a i) s).tableCells (lineArea a i) cells :=
  have hcells : DrawsIn (lineArea a i) (·.tableCells (lineArea a i) cells) :=
    drawsIn_tableCells (lineArea a i) cells
  hcells.comp (drawsIn_restyle _ s)

theorem drawsIn_tableRow (a : Area) (d : Desk) (row : RenderedRow) (i : Nat) :
    DrawsIn (lineArea a (i + 1)) (·.tableRow a d row i) :=
  drawsIn_tableLine a (i + 1) _ _

/-- All rows and the header keep to the table. -/
theorem drawsIn_tableRows (a : Area) (d : Desk) (header : List String) (rows : List RenderedRow) :
    DrawsIn a (·.tableRows a d header rows) := by
  by_cases h : a.isEmpty = true
  · simpa only [tableRows, if_pos h] using DrawsIn.id a
  · have hheight : 0 < a.height := by
      simp only [isEmpty, Bool.or_eq_true, beq_iff_eq] at h
      omega
    simp only [tableRows, if_neg h]
    refine (DrawsIn.foldl fun k hk ↦ ?_).comp
      ((drawsIn_tableLine a 0 _ _).mono (lineArea_within hheight))
    have hi : k.2 < (rows.take (a.height - 1)).length := List.snd_lt_of_mem_zipIdx hk
    rw [List.length_take] at hi
    exact (drawsIn_tableRow a d k.1 k.2).mono (lineArea_within (by omega))

/-- Layers that each keep to a line of their own leave the lines before them alone. -/
theorem spot_foldl_of_lt {α : Type} {f : Canvas → α → Nat → Canvas}
    (hf : ∀ k i, DrawsIn (lineArea a (i + 1)) (f · k i)) (l : List α) {n : Nat}
    (hy : y < a.y + (n + 1)) (c : Canvas) :
    ((l.zipIdx n).foldl (fun c (k, i) ↦ f c k i) c).spot x y = c.spot x y := by
  induction l generalizing n c with
  | nil => rfl
  | cons k l ih =>
    rw [List.zipIdx_cons, List.foldl_cons, ih (by omega)]
    exact (hf k n).outside (contains_lineArea_eq_false (by omega))

/-- Of layers that each keep to a line of their own, one alone is seen on its line. -/
theorem spot_foldl_of_getElem? {α : Type} {f : Canvas → α → Nat → Canvas}
    (hf : ∀ k i, DrawsIn (lineArea a (i + 1)) (f · k i)) {l : List α} {k : α} {n i : Nat}
    (hk : l[i]? = some k) (hy : y = a.y + (n + i + 1)) (c : Canvas) :
    ((l.zipIdx n).foldl (fun c (k, i) ↦ f c k i) c).spot x y = (f c k (n + i)).spot x y := by
  induction l generalizing n i c with
  | nil => cases hk
  | cons k' l ih =>
    rw [List.zipIdx_cons, List.foldl_cons]
    cases i with
    | zero =>
      cases hk
      exact spot_foldl_of_lt hf l (by omega) _
    | succ i =>
      -- the first layer is on a line before that of the one that is looked for
      have hbefore : (f c k' n).spot x y = c.spot x y :=
        (hf k' n).outside (contains_lineArea_eq_false (by omega))
      rw [ih hk (by omega), Nat.add_right_comm, Nat.add_assoc]
      exact (hf k (n + (i + 1))).congr hbefore

/-- On its line a row looks as if it was drawn alone. -/
theorem spot_tableRows {header : List String} {rows : List RenderedRow} {row : RenderedRow}
    {i : Nat} (h : a.contains x y = true) (hrow : rows[i]? = some row) (hy : y = a.y + (i + 1)) :
    (c.tableRows a d header rows).spot x y = (c.tableRow a d row i).spot x y := by
  have htake : (rows.take (a.height - 1))[i]? = some row := by
    simp only [contains_iff, bottom] at h
    rw [List.getElem?_take_of_lt (by omega), hrow]
  simp only [tableRows, isEmpty_eq_false h, Bool.false_eq_true, if_false]
  refine (spot_foldl_of_getElem? (drawsIn_tableRow a d) htake (by omega) _).trans ?_
  rw [Nat.zero_add]
  -- the headings are on the first line
  exact (drawsIn_tableRow a d row i).congr
    ((drawsIn_tableLine a 0 _ _).outside (contains_lineArea_eq_false (by omega)))

end Canvas

/-! ### The inside of the table -/

namespace TableAreas

theorem body_within (pane : Area) : (ofPane pane).body.Within pane.inner :=
  (pane.inner.columns_within 0 1 triggerWidth).1

theorem triggers_within (pane : Area) : (ofPane pane).triggers.Within pane.inner :=
  (pane.inner.columns_within 0 1 triggerWidth).2

/-- Where there is room for buttons there is room for rows. -/
theorem body_width_pos {pane : Area} (h : (ofPane pane).triggers.contains x y = true) :
    0 < (ofPane pane).body.width := by
  have hinner := contains_iff.1 (triggers_within pane x y h)
  show 0 < (shares 0 1 triggerWidth pane.inner.width).2.1
  simp only [right, shares, triggerWidth] at hinner ⊢
  omega

/-- A press for a row is on its line, among the rows or among the buttons. -/
theorem rowAt?_of_targetBelow {t : TableAreas} {column line i : Nat}
    (h : t.targetBelow column line = .rowBody i ∨ t.targetBelow column line = .actionTrigger i) :
    t.rowAt? line = some i ∧
      (t.body.contains column line = true ∨ t.triggers.contains column line = true) := by
  unfold targetBelow at h
  split at h
  · rename_i j hrow
    by_cases htriggers : t.triggers.contains column line = true
    · rw [if_pos htriggers] at h
      rcases h with h | h <;> cases h
      exact ⟨hrow, .inr htriggers⟩
    · rw [if_neg htriggers] at h
      by_cases hbody : t.body.contains column line = true
      · rw [if_pos hbody] at h
        rcases h with h | h <;> cases h
        exact ⟨hrow, .inl hbody⟩
      · rw [if_neg hbody] at h
        rcases h with h | h <;> cases h
  · split at h <;> rcases h with h | h <;> cases h

/-- The buttons of the rows stand beside the rows. -/
theorem triggers_contains_eq_false {pane : Area} (h : (ofPane pane).body.contains x y = true) :
    (ofPane pane).triggers.contains x y = false := by
  have hleft : x < (ofPane pane).triggers.x := (contains_iff.1 h).1.2
  rw [← Bool.not_eq_true, contains_iff]
  omega

end TableAreas

namespace Canvas

open TableAreas

theorem drawsIn_message (a : Area) (text : String) : DrawsIn a (·.message a text) :=
  (drawsIn_paragraph a _).comp (drawsIn_restyle a _)

/-- Whatever the table shows keeps to its pane. -/
theorem drawsIn_table (a : Area) (d : Desk) : DrawsIn a (·.table a d) := by
  have hbody : (ofPane a).body.Within a := fun x y h ↦ a.inner_within x y (body_within a x y h)
  have htriggers : (ofPane a).triggers.Within a :=
    fun x y h ↦ a.inner_within x y (triggers_within a x y h)
  unfold table
  cases d.workspace.view with
  | none => exact drawsIn_framed a _ _
  | some v =>
    dsimp only
    cases v.table.render (d.rows v) ((d.lists v).any (·.isLoading)) with
    | loading => exact ((drawsIn_message _ _).mono hbody).comp (drawsIn_framed a _ _)
    | empty text => exact ((drawsIn_message _ _).mono hbody).comp (drawsIn_framed a _ _)
    | rows header rendered =>
      exact ((drawsIn_paragraph _ _).mono htriggers).comp
        (((drawsIn_tableRows _ d _ _).mono hbody).comp (drawsIn_framed a _ _))

/-- A row of a list that waits for no answer is drawn on its line. -/
theorem spot_table_of_row {v : Resource} {r : Record} {i : Nat} (hv : d.workspace.view = some v)
    (hloading : (d.lists v).any (·.isLoading) = false) (hr : (d.rows v)[i]? = some r)
    (h : (ofPane a).body.contains x y = true) (hy : y = (ofPane a).body.y + (i + 1)) :
    (c.table a d).spot x y =
      (c.tableRow (ofPane a).body d (v.table.renderRow r) i).spot x y := by
  have hsome : ¬(d.rows v).isEmpty = true := by
    rw [List.isEmpty_iff]
    intro hnil
    rw [hnil] at hr
    cases hr
  have hrow : ((d.rows v).map v.table.renderRow)[i]? = some (v.table.renderRow r) := by
    rw [List.getElem?_map, hr, Option.map_some]
  simp only [table, hv, hloading, TableSpec.render, Bool.false_eq_true, if_false, if_neg hsome]
  rw [(drawsIn_paragraph _ _).outside (triggers_contains_eq_false h), spot_tableRows h hrow hy]
  exact (drawsIn_tableRow _ d _ i).congr (spot_framed_of_inner (body_within a x y h) _ _)

/-- The message in place of the rows of a list that waits for an answer takes the first line. -/
theorem spot_table_of_loading {v : Resource} (hv : d.workspace.view = some v)
    (hloading : (d.lists v).any (·.isLoading) = true) (h : (ofPane a).body.contains x y = true)
    (hy : (ofPane a).body.y < y) :
    (c.table a d).spot x y = (c.spot x y).restyled (.ink .gray) := by
  have hline : (linesOf ("loading " ++ v.label ++ "..."))[y - (ofPane a).body.y]? = none := by
    have hlength : (linesOf ("loading " ++ v.label ++ "...")).length = 1 := by
      cases v <;> decide +kernel
    exact List.getElem?_eq_none (by omega)
  simp only [table, hv, hloading, TableSpec.render, if_true, message]
  rw [spot_paragraph_of_none hline]
  refine (if_pos h).trans ?_
  rw [spot_framed_of_inner (body_within a x y h)]

/-! ### The other parts of the screen -/

theorem drawsIn_header (a : Area) (lines : List (List Piece)) :
    DrawsIn a fun c ↦ (c.border a .plain).paragraph a.inner lines :=
  ((drawsIn_paragraph _ lines).mono a.inner_within).comp (drawsIn_border a _)

theorem drawsIn_sidebar (a : Area) (d : Desk) : DrawsIn a (·.sidebar a d) :=
  ((drawsIn_paragraph _ _).mono a.inner_within).comp (drawsIn_framed a _ _)

theorem drawsIn_search (a : Area) (d : Desk) : DrawsIn a (·.search a d) :=
  ((drawsIn_paragraph _ _).mono a.inner_within).comp (drawsIn_framed a _ _)

theorem drawsIn_status (a : Area) (d : Desk) : DrawsIn a (·.status a d) :=
  drawsIn_paragraph a _

end Canvas

namespace Desk

open Canvas

/-- While nothing lies over the screen, nothing but the table is seen where the table is. -/
theorem spot_draw_of_table (hfree : d.overlay = none) (hmenu : d.menu = none)
    (h : d.panes.table.contains x y = true) :
    d.draw.spot x y = (Canvas.blank.table d.panes.table d).spot x y := by
  have hheader : d.panes.header.bottom ≤ d.panes.table.y := Panes.bottom_header_le _ _
  have hsearch : d.panes.search.bottom = d.panes.table.y := Panes.bottom_search _ _
  have hfooter : d.panes.footer.y = d.panes.table.bottom := Panes.y_footer _ _
  have hstatus : d.panes.table.bottom ≤ d.panes.status.y := Panes.bottom_table_le _ _
  have hsidebar (area : Area) (harea : d.panes.sidebar = some area) :
      area.right = d.panes.table.x := Panes.right_sidebar harea
  obtain ⟨⟨hleft, -⟩, htop, hbottom⟩ := contains_iff.1 h
  -- no other part of the screen has the cell
  have habove {a : Area} (ha : a.bottom ≤ d.panes.table.y) : a.contains x y = false := by
    rw [← Bool.not_eq_true, contains_iff]
    omega
  have hbelow {a : Area} (ha : d.panes.table.bottom ≤ a.y) : a.contains x y = false := by
    rw [← Bool.not_eq_true, contains_iff]
    omega
  have hbeside (c : Canvas) :
      (d.panes.sidebar.elim c fun a ↦ c.sidebar a d).spot x y = c.spot x y := by
    cases harea : d.panes.sidebar with
    | none => rfl
    | some area =>
      refine (drawsIn_sidebar area d).outside ?_
      rw [← Bool.not_eq_true, contains_iff, hsidebar area harea]
      omega
  unfold draw
  simp only [overlays_eq_nil hfree, List.foldl_nil, Canvas.menu, hmenu]
  rw [(drawsIn_status _ d).outside (hbelow hstatus),
    (drawsIn_paragraph _ _).outside (hbelow hfooter.ge)]
  refine (drawsIn_table _ d).congr ?_
  rw [(drawsIn_search _ d).outside (habove hsearch.le), hbeside]
  exact (drawsIn_header _ _).outside (habove hheader)

/-! ### Presses on rows -/

/-- The row of the open view that a press is for, while no menu is open. -/
def pressedRow? (d : Desk) (column line : Nat) : Option Nat :=
  match d.panes.sidebar.filter (·.contains column line), d.workspace.view with
  | none, some v =>
    match (TableAreas.ofPane d.panes.table).targetBelow column line with
    | .rowBody i | .actionTrigger i => if i < (d.rows v).length then some i else none
    | _ => none
  | _, _ => none

variable {o : Oracle} {answers : Answers} {v : Resource} {column line i : Nat}

/-- While nothing is open, a press is for the sidebar or for the table. -/
theorem press_eq (hfree : d.overlay = none) (hmenu : d.menu = none) :
    d.press o answers column line =
      match d.panes.sidebar.filter (·.contains column line), d.workspace.view with
      | some area, _ => d.pressSidebar o answers area line
      | none, some v =>
        d.pressTable v ((TableAreas.ofPane d.panes.table).targetBelow column line)
      | none, none => d.idle := by
  have hclosed : d.closeMenu = d := by
    rw [closeMenu, ← hmenu]
  have htarget : (TableAreas.ofPane d.panes.table).target d.menu column line =
      (TableAreas.ofPane d.panes.table).targetBelow column line := by
    rw [hmenu]
    rfl
  cases hside : d.panes.sidebar.filter (·.contains column line) <;>
    cases hv : d.workspace.view <;> simp [press, hfree, htarget, hclosed, hside, hv]

/-- A press on a row selects it and opens its detail where the view is for that. -/
theorem pressTable_rowBody {r : Record} (hr : (d.rows v)[i]? = some r) :
    d.pressTable v (.rowBody i) = ({ d with selectedRow := i }.openDetail v i).idle ∨
      d.pressTable v (.rowBody i) = { d with selectedRow := i }.idle := by
  have hlt : i < (d.rows v).length := (List.getElem?_eq_some_iff.1 hr).1
  by_cases hclick : v.table.rowClick = true
  · refine .inl ?_
    simp only [pressTable, TableSpec.click?, if_pos hclick, hr, Option.map_some]
  · refine .inr ?_
    simp only [pressTable, TableSpec.click?, if_neg hclick, if_pos hlt]

/-- A press on the button of a row selects the row and opens or closes its menu. -/
theorem pressTable_actionTrigger (hlt : i < (d.rows v).length) :
    d.pressTable v (.actionTrigger i) = { d with selectedRow := i }.toggleMenu v i := by
  simp only [pressTable, TableSpec.click?, if_pos hlt]

/-- While no menu is open, a press in the table that is for no row does nothing. -/
theorem pressTable_eq_idle (hmenu : d.menu = none) {target : ClickTarget}
    (hrow : ∀ i, target = .rowBody i ∨ target = .actionTrigger i → (d.rows v).length ≤ i) :
    d.pressTable v target = d.idle := by
  have hopen : d.openMenu? = none := by
    simp [openMenu?, hmenu, Dropdown.row?]
  cases target with
  | rowBody i =>
    have hle : (d.rows v).length ≤ i := hrow i (.inl rfl)
    simp [pressTable, TableSpec.click?, Nat.not_lt.2 hle]
  | actionTrigger i =>
    have hle : (d.rows v).length ≤ i := hrow i (.inr rfl)
    simp [pressTable, TableSpec.click?, Nat.not_lt.2 hle]
  | actionItem i item =>
    by_cases hlt : i < (d.rows v).length <;> simp [pressTable, TableSpec.click?, hlt, hopen]
  | header => rfl
  | actionMenu i => rfl
  | outside => rfl

/-- A press is for a row if it is beside the sidebar, on the line or on the button of a row that the
list has. -/
theorem pressedRow?_eq_some_iff :
    d.pressedRow? column line = some i ↔
      d.panes.sidebar.filter (·.contains column line) = none ∧
        ∃ v, d.workspace.view = some v ∧ i < (d.rows v).length ∧
          ((TableAreas.ofPane d.panes.table).targetBelow column line = .rowBody i ∨
            (TableAreas.ofPane d.panes.table).targetBelow column line = .actionTrigger i) := by
  unfold pressedRow?
  cases d.panes.sidebar.filter (·.contains column line) with
  | some area => simp
  | none =>
    cases d.workspace.view with
    | none => simp
    | some v => cases (TableAreas.ofPane d.panes.table).targetBelow column line <;> grind

/-- A press that is for no row leaves all as it is, unless the sidebar takes it. -/
theorem press_of_pressedRow?_eq_none (hfree : d.overlay = none) (hmenu : d.menu = none)
    (hrow : d.pressedRow? column line = none) :
    d.press o answers column line = d.idle ∨
      ∃ area, d.panes.sidebar = some area ∧ area.contains column line = true ∧
        d.press o answers column line = d.pressSidebar o answers area line := by
  rw [press_eq hfree hmenu]
  cases hside : d.panes.sidebar.filter (·.contains column line) with
  | some area =>
    obtain ⟨harea, hin⟩ := Option.filter_eq_some_iff.1 hside
    exact .inr ⟨area, harea, hin, rfl⟩
  | none =>
    refine .inl ?_
    cases hv : d.workspace.view with
    | none => rfl
    | some v =>
      refine pressTable_eq_idle hmenu fun i htarget ↦ ?_
      by_contra hlt
      have hsome : d.pressedRow? column line = some i :=
        pressedRow?_eq_some_iff.2 ⟨hside, v, hv, Nat.lt_of_not_le hlt, htarget⟩
      rw [hrow] at hsome
      cases hsome

/-- **A row takes presses where it is drawn, as long as the list waits for no answer.** Whatever the
size of the screen, while nothing lies over it and no menu is open:
1. a press that is for no row leaves all as it is, unless the sidebar takes it;
2. a press that is for a row selects it, and may open its detail or its menu. It is on the line
   where the table has the row, and there the whole line of the table shows the row and nothing
   else. But while the list waits for an answer, the line is blank. -/
theorem pressed_row_is_drawn_iff (o : Oracle) (answers : Answers) (hfree : d.overlay = none)
    (hmenu : d.menu = none) (column line : Nat) :
    (d.pressedRow? column line = none →
      d.press o answers column line = d.idle ∨
        ∃ area, d.panes.sidebar = some area ∧ area.contains column line = true ∧
          d.press o answers column line = d.pressSidebar o answers area line) ∧
    ∀ i, d.pressedRow? column line = some i →
      ∃ v r, d.workspace.view = some v ∧ (d.rows v)[i]? = some r ∧
        (d.press o answers column line = ({ d with selectedRow := i }.openDetail v i).idle ∨
          d.press o answers column line = { d with selectedRow := i }.toggleMenu v i ∨
          d.press o answers column line = { d with selectedRow := i }.idle) ∧
        let body := (TableAreas.ofPane d.panes.table).body
        line = body.y + (i + 1) ∧ 0 < body.width ∧
          ∀ x, body.x ≤ x → x < body.right →
            d.draw.spot x line =
              if (d.lists v).any (·.isLoading) then ⟨" ", .ink .gray⟩
              else (Canvas.blank.tableRow body d (v.table.renderRow r) i).spot x line := by
  refine ⟨press_of_pressedRow?_eq_none hfree hmenu, fun i hi ↦ ?_⟩
  obtain ⟨hside, v, hv, hlt, htarget⟩ := pressedRow?_eq_some_iff.1 hi
  have hr : (d.rows v)[i]? = some (d.rows v)[i] := List.getElem?_eq_getElem hlt
  obtain ⟨hline, hpane⟩ := TableAreas.rowAt?_of_targetBelow htarget
  obtain ⟨⟨htop, hbottom⟩, hindex⟩ := Option.ite_none_right_eq_some.1 hline
  have hy : line = (TableAreas.ofPane d.panes.table).body.y + (i + 1) := by
    have := Option.some.inj hindex
    omega
  refine ⟨v, (d.rows v)[i], hv, hr, ?_, hy, ?_, fun x hleft hright ↦ ?_⟩
  · rw [press_eq hfree hmenu, hside, hv]
    rcases htarget with htarget | htarget <;> rw [htarget]
    · rcases pressTable_rowBody hr with h | h
      · exact .inl h
      · exact .inr (.inr h)
    · exact .inr (.inl (pressTable_actionTrigger hlt))
  · rcases hpane with hbody | htriggers
    · have hcolumn := (contains_iff.1 hbody).1
      simp only [right] at hcolumn
      omega
    · exact TableAreas.body_width_pos htriggers
  · have hbody : (TableAreas.ofPane d.panes.table).body.contains x line = true :=
      contains_iff.2 ⟨⟨hleft, hright⟩, htop.le, hbottom⟩
    rw [spot_draw_of_table hfree hmenu
      (inner_within _ _ _ (TableAreas.body_within _ _ _ hbody))]
    -- a press does not ask whether rows are awaited, the drawing does: this is where both part
    split
    · rename_i hloading
      rw [spot_table_of_loading hv hloading hbody htop]
      rfl
    · rename_i hloading
      exact spot_table_of_row hv (Bool.not_eq_true _ ▸ hloading) hr hbody hy

/-- An event is drawn on the line on which a press is for it. -/
theorem event_is_drawn_where_pressed :
    let d := sampleOpening.after sampleOracle (sampleChoice.take 1)
    d.overlay = none ∧ d.menu = none ∧ d.pressedRow? 40 8 = some 0 ∧
      ∃ r, (d.rows .events)[0]? = some r ∧ ∀ x, 27 ≤ x → x < 75 →
        d.draw.spot x 8 =
          (Canvas.blank.tableRow (TableAreas.ofPane d.panes.table).body d
            (Resource.events.table.renderRow r) 0).spot x 8 := by
  intro d
  have hfree : d.overlay = none := by decide +kernel
  have hmenu : d.menu = none := by decide +kernel
  have hrow : d.pressedRow? 40 8 = some 0 := by decide +kernel
  have hview : d.workspace.view = some .events := by decide +kernel
  have hloading : (d.lists .events).any (·.isLoading) = false := by decide +kernel
  have hbody : (TableAreas.ofPane d.panes.table).body = ⟨27, 7, 48, 13⟩ := by decide +kernel
  obtain ⟨v, r, hv, hr, -, -, -, hdrawn⟩ :=
    (pressed_row_is_drawn_iff sampleOracle sampleAnswers hfree hmenu 40 8).2 0 hrow
  obtain rfl : v = .events := Option.some.inj (hv.symm.trans hview)
  simp only [hloading, Bool.false_eq_true, if_false] at hdrawn
  refine ⟨hfree, hmenu, hrow, r, hr, fun x hleft hright ↦ hdrawn x ?_ ?_⟩ <;> rwa [hbody]

/-- An event comes, and the list is asked for again. -/
def sampleRefresh : List Occasion :=
  sampleChoice.take 1 ++ [⟨sampleAnswers, .key ⟨.char 'R', false, false, false⟩⟩]

/-- While the list waits for the answer, the line of the event is blank, and a press there opens its
detail. -/
theorem unseen_event_is_pressed :
    let d := sampleOpening.after sampleOracle sampleRefresh
    d.overlay = none ∧ d.menu = none ∧ d.pressedRow? 40 8 = some 0 ∧
      (d.rows .events).map (·.title) = ["Gala"] ∧
      (TableAreas.ofPane d.panes.table).body = ⟨27, 7, 48, 13⟩ ∧
      (∀ x, 27 ≤ x → x < 75 → (d.draw.spot x 8).symbol = " ") ∧
      (d.step sampleOracle sampleAnswers (.mouse (.press 40 8))).desk.detail.map (·.title) =
        some "Gala" := by
  have hblank : ∀ x < 75, 27 ≤ x →
      ((sampleOpening.after sampleOracle sampleRefresh).draw.spot x 8).symbol = " " := by
    decide +kernel
  refine ⟨?_, ?_, ?_, ?_, ?_, fun x hleft hright ↦ hblank x hright hleft, ?_⟩ <;> decide +kernel

end Desk

end PitchDesk
