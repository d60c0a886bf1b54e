import Mathlib.Data.List.Nodup
import PitchDesk.ActionMenu.Dropdown

/-!
# Where a menu stands and which item a point is on

A menu stands below its button, after a gap, or right above it. So it shares no row with the
button. Its rows are the upper half of the padding, then as many rows for each item as an item is
high, one item after another, and the rest of the padding, `OpenMenu.itemAt?_eq_some_iff_mem` and
`OpenMenu.itemAt?_eq_none_iff`. The items come one after another because the first row of an item
only depends on how many items are above it; that every row between the first item and the last is
some item's goes by induction on their number, `OpenMenu.exists_mem_itemRows`.

Whether there is room below the button is asked without the gap. So a menu that just fits below its
button ends below the viewport, though by no more than the gap, `MenuPosition.beside_inside_iff`.
On a screen of cells there is no gap, and the question does not arise.

## Rows as lists

What a menu is made of is told by lists of rows, so that it can be counted and compared: the rows
of an item are as many as it is high, no row is listed twice, and those of different items share
none. A point is looked up by a division instead. `OpenMenu.mem_itemRows_iff` is where both meet,
and it needs nothing of the menu but that an item is at least one row high.

Metrics are those of cells or of pixels, and may be any as long as no measure is negative. The
padding is halved towards zero, and an odd one has its larger half below the last item.
-/

namespace PitchDesk

/-! ### Rows -/

/-- As many rows as a height says, from one on. -/
def rowsFrom (top height : Int) : List Int :=
  (List.range height.toNat).map fun k : Nat ↦ top + (k : Int)

theorem mem_rowsFrom {top height row : Int} :
    row ∈ rowsFrom top height ↔ top ≤ row ∧ row < top + height := by
  simp only [rowsFrom, List.mem_map, List.mem_range]
  constructor
  · rintro ⟨k, hk, rfl⟩
    omega
  · rintro ⟨hle, hlt⟩
    exact ⟨(row - top).toNat, by omega, by omega⟩

theorem length_rowsFrom (top : Int) {height : Int} (h : 0 ≤ height) :
    ((rowsFrom top height).length : Int) = height := by
  rw [rowsFrom, List.length_map, List.length_range]
  omega

theorem nodup_rowsFrom (top height : Int) : (rowsFrom top height).Nodup :=
  List.nodup_range.map fun _ _ h ↦ Int.ofNat_inj.1 (Int.add_left_cancel h)

/-- The rows of a rectangle. -/
def Rect.rows (r : Rect) : List Int :=
  rowsFrom r.top r.height

theorem Rect.mem_rows {r : Rect} {row : Int} : row ∈ r.rows ↔ r.top ≤ row ∧ row < r.bottom :=
  mem_rowsFrom

/-- A point is in a rectangle if its row and its column are. -/
theorem Rect.contains_iff {r : Rect} {row col : Int} :
    r.contains row col = true ↔ row ∈ r.rows ∧ r.left ≤ col ∧ col < r.right := by
  simp [contains, mem_rows, and_assoc]

/-- The upper and the lower edge of the first rectangle are between those of the second. -/
structure Rect.RowsInside (r s : Rect) : Prop where
  le_top : s.top ≤ r.top
  top_le : r.top ≤ s.bottom
  le_bottom : s.top ≤ r.bottom
  bottom_le : r.bottom ≤ s.bottom

/-- No measure of a menu is negative. -/
structure MenuMetrics.Nonneg (metrics : MenuMetrics) : Prop where
  itemHeight : 0 ≤ metrics.itemHeight
  padding : 0 ≤ metrics.padding
  width : 0 ≤ metrics.width
  gap : 0 ≤ metrics.gap
  margin : 0 ≤ metrics.margin

variable {button viewport : Rect} {metrics : MenuMetrics}

/-! ### Beside the button -/

namespace MenuPosition

theorem bottom_beside (button viewport : Rect) (items : Nat) (metrics : MenuMetrics) :
    (beside button viewport items metrics).rect.bottom =
      (beside button viewport items metrics).rect.top + metrics.menuHeight items :=
  rfl

/-- A menu ends where its button begins, if the room below the button is too small for it, and else
begins where the gap below its button ends. -/
theorem top_beside_cases (button viewport : Rect) (items : Nat) (metrics : MenuMetrics) :
    (viewport.bottom - button.bottom < metrics.menuHeight items ∧
      (beside button viewport items metrics).rect.top =
        button.top - metrics.menuHeight items) ∨
    (metrics.menuHeight items ≤ viewport.bottom - button.bottom ∧
      (beside button viewport items metrics).rect.top = button.bottom + metrics.gap) := by
  rcases Int.lt_or_le (viewport.bottom - button.bottom) (metrics.menuHeight items) with hup | hdown
  · exact .inl ⟨hup, by simp only [beside, hup, decide_true, if_true]⟩
  · refine .inr ⟨hdown, ?_⟩
    simp only [beside, Int.not_lt.2 hdown, decide_false, Bool.false_eq_true, if_false]

variable {items : Nat}

/-- A menu is above its button or below. -/
theorem not_mem_rows_of_mem_beside (h : metrics.Nonneg) {row : Int}
    (hmenu : row ∈ (beside button viewport items metrics).rect.rows) : row ∉ button.rows := by
  intro hbutton
  rw [Rect.mem_rows] at hmenu hbutton
  rw [bottom_beside] at hmenu
  have hgap := h.gap
  have hplace := top_beside_cases button viewport items metrics
  omega

/-- A menu ends where its button ends, if that is not in the margin of the viewport. -/
theorem right_beside (button viewport : Rect) (items : Nat) (metrics : MenuMetrics) :
    (beside button viewport items metrics).rect.right =
      min button.right (viewport.right - metrics.margin) := by
  simp only [beside, Rect.right]
  omega

/-- A menu beside its button begins on the screen exactly if there is room for it below the button
or above. -/
theorem top_beside_iff (hgap : 0 ≤ metrics.gap) (h : viewport.top ≤ button.bottom) :
    viewport.top ≤ (beside button viewport items metrics).rect.top ↔
      metrics.menuHeight items ≤ viewport.bottom - button.bottom ∨
        metrics.menuHeight items ≤ button.top - viewport.top := by
  have hplace := top_beside_cases button viewport items metrics
  omega

/-- **A menu for which there is room lies inside the viewport, but for the gap.** Let the button lie
inside the viewport and let there be room for the menu below the button or above it. Then the menu
begins inside the viewport and ends below it by the gap at most. It ends inside the viewport unless
the room below the button is enough for the menu, but not for the gap and the menu. -/
theorem beside_inside_iff (hmetrics : metrics.Nonneg) (hbutton : button.RowsInside viewport)
    (hroom : metrics.menuHeight items ≤ viewport.bottom - button.bottom ∨
      metrics.menuHeight items ≤ button.top - viewport.top) :
    viewport.top ≤ (beside button viewport items metrics).rect.top ∧
      (beside button viewport items metrics).rect.bottom ≤ viewport.bottom + metrics.gap ∧
      ((beside button viewport items metrics).rect.bottom ≤ viewport.bottom ↔
        ¬ (metrics.menuHeight items ≤ viewport.bottom - button.bottom ∧
          viewport.bottom - button.bottom < metrics.menuHeight items + metrics.gap)) := by
  have hgap := hmetrics.gap
  have htop := hbutton.top_le
  refine ⟨(top_beside_iff hgap hbutton.le_bottom).2 hroom, ?_⟩
  have hplace := top_beside_cases button viewport items metrics
  rw [bottom_beside]
  omega

/-- The menu of a button near the lower end of a screen of pixels opens upward and lies inside. -/
theorem menu_above_button_inside :
    let viewport : Rect := ⟨0, 0, 1280, 800⟩
    let button : Rect := ⟨718, 1100, 32, 32⟩
    let p := beside button viewport 4 .pixels
    MenuMetrics.pixels.Nonneg ∧ button.RowsInside viewport ∧
      MenuMetrics.pixels.menuHeight 4 ≤ button.top - viewport.top ∧
      p.rect.bottom ≤ viewport.bottom := by
  intro viewport button p
  have hmetrics : MenuMetrics.pixels.Nonneg := by constructor <;> decide
  have hbutton : button.RowsInside viewport := by constructor <;> decide
  have habove : MenuMetrics.pixels.menuHeight 4 ≤ button.top - viewport.top := by decide
  have hinside := (beside_inside_iff hmetrics hbutton (.inr habove)).2.2
  exact ⟨hmetrics, hbutton, habove, hinside.2 (by decide)⟩

/-- A button has room for exactly the menu below it, and much more above. The menu opens downward,
after the gap, and its last four rows are below the screen. -/
theorem just_fitting_menu_overhangs :
    let viewport : Rect := ⟨0, 0, 1280, 800⟩
    let button : Rect := ⟨600, 1100, 32, 32⟩
    let p := beside button viewport 4 .pixels
    MenuMetrics.pixels.Nonneg ∧ button.RowsInside viewport ∧
      MenuMetrics.pixels.menuHeight 4 = viewport.bottom - button.bottom ∧
      MenuMetrics.pixels.menuHeight 4 ≤ button.top - viewport.top ∧
      p.rect.bottom = viewport.bottom + 4 := by
  refine ⟨?_, ?_, rfl, by decide, rfl⟩ <;> constructor <;> decide

end MenuPosition

/-! ### Which item a point is on -/

namespace OpenMenu

variable {m : OpenMenu} {row col : Int} {i : Nat}

/-- The first row of an item. -/
def itemTop (m : OpenMenu) (metrics : MenuMetrics) (i : Nat) : Int :=
  m.position.rect.top + metrics.padding / 2 + i * metrics.itemHeight

theorem itemTop_zero (m : OpenMenu) (metrics : MenuMetrics) :
    m.itemTop metrics 0 = m.position.rect.top + metrics.padding / 2 := by
  rw [itemTop, Int.natCast_zero, Int.zero_mul, Int.add_zero]

/-- The rows of an item. -/
def itemRows (m : OpenMenu) (metrics : MenuMetrics) (i : Nat) : List Int :=
  rowsFrom (m.itemTop metrics i) metrics.itemHeight

theorem itemTop_succ (m : OpenMenu) (metrics : MenuMetrics) (i : Nat) :
    m.itemTop metrics (i + 1) = m.itemTop metrics i + metrics.itemHeight := by
  rw [itemTop, itemTop, Int.natCast_succ, Int.add_mul, Int.one_mul, ← Int.add_assoc]

theorem mem_itemRows :
    row ∈ m.itemRows metrics i ↔ m.itemTop metrics i ≤ row ∧ row < m.itemTop metrics (i + 1) := by
  rw [itemRows, mem_rowsFrom, itemTop_succ]

/-- Later items begin further down. -/
theorem itemTop_le_itemTop (h : 0 ≤ metrics.itemHeight) {j : Nat} (hij : i ≤ j) :
    m.itemTop metrics i ≤ m.itemTop metrics j :=
  Int.add_le_add_left (Int.mul_le_mul_of_nonneg_right (Int.ofNat_le.2 hij) h) _

/-- The items lie one below the other, so each row from the first item on and above the last is that
of an item. -/
theorem exists_mem_itemRows {items : Nat} (hfirst : m.itemTop metrics 0 ≤ row)
    (hlast : row < m.itemTop metrics items) : ∃ i < items, row ∈ m.itemRows metrics i := by
  induction items with
  | zero => omega
  | succ items ih =>
    rcases Int.lt_or_le row (m.itemTop metrics items) with hrow | hrow
    · obtain ⟨i, hi, hmem⟩ := ih hrow
      exact ⟨i, Nat.lt_succ_of_lt hi, hmem⟩
    · exact ⟨items, Nat.lt_succ_self items, mem_itemRows.2 ⟨hrow, hlast⟩⟩

/-- A menu that is as high as its items and the padding has room for them between the two halves of
the padding. -/
theorem itemRows_subset (h : metrics.Nonneg)
    (hheight : m.position.rect.height = metrics.menuHeight m.items) (hi : i < m.items) :
    m.itemRows metrics i ⊆ m.position.rect.rows := by
  intro row hrow
  rw [mem_itemRows] at hrow
  rw [Rect.mem_rows, Rect.bottom, hheight, MenuMetrics.menuHeight]
  have hpadding := h.padding
  have hfirst : m.itemTop metrics 0 ≤ m.itemTop metrics i :=
    itemTop_le_itemTop h.itemHeight (Nat.zero_le i)
  have hlast : m.itemTop metrics (i + 1) ≤ m.itemTop metrics m.items :=
    itemTop_le_itemTop h.itemHeight hi
  have hend : m.itemTop metrics m.items =
      m.position.rect.top + metrics.padding / 2 + m.items * metrics.itemHeight := rfl
  rw [itemTop_zero] at hfirst
  omega

/-- A point on the menu is on the item that its row falls to when the rows below the upper half of
the padding are divided by the height of an item. -/
theorem itemAt?_eq_some_iff :
    m.itemAt? row col metrics = some i ↔
      m.contains row col = true ∧ i < m.items ∧ 0 < metrics.itemHeight ∧
        0 ≤ row - m.position.rect.top - metrics.padding.tdiv 2 ∧
        ((row - m.position.rect.top - metrics.padding.tdiv 2) / metrics.itemHeight).toNat = i := by
  simp only [itemAt?]
  split_ifs with hon houtside hindex
  · simp_all
  · simp only [false_iff]
    omega
  · rw [Option.some.injEq]
    constructor
    · rintro rfl
      exact ⟨by simpa using hon, hindex, by omega, by omega, rfl⟩
    · exact fun h ↦ h.2.2.2.2
  · simp only [false_iff]
    rintro ⟨-, hi, -, -, rfl⟩
    exact hindex hi

/-- A row is some way into an item exactly if dividing the rows above it gives the item. -/
theorem mem_itemRows_iff (hitem : 0 < metrics.itemHeight) :
    row ∈ m.itemRows metrics i ↔
      0 ≤ row - m.itemTop metrics 0 ∧
        ((row - m.itemTop metrics 0) / metrics.itemHeight).toNat = i := by
  have hfirst : m.itemTop metrics i = m.itemTop metrics 0 + i * metrics.itemHeight := by
    rw [itemTop_zero, itemTop]
  have hquotient := and_congr
    (Int.le_ediv_iff_mul_le (a := (i : Int)) (b := row - m.itemTop metrics 0) hitem)
    (Int.ediv_lt_iff_lt_mul (a := row - m.itemTop metrics 0) (b := (i : Int) + 1) hitem)
  have hnonneg : 0 ≤ (row - m.itemTop metrics 0) / metrics.itemHeight ↔
      0 ≤ row - m.itemTop metrics 0 := Int.ediv_nonneg_iff_of_pos hitem
  rw [Int.add_mul, Int.one_mul] at hquotient
  rw [mem_itemRows, itemTop_succ, hfirst]
  omega

/-- An item that a point lies on is one of those that the menu has. -/
theorem lt_items_of_itemAt? (h : m.itemAt? row col metrics = some i) : i < m.items :=
  (itemAt?_eq_some_iff.1 h).2.1

/-- An item of a menu lies on the menu. -/
theorem contains_of_itemAt? (h : m.itemAt? row col metrics = some i) :
    m.contains row col = true :=
  (itemAt?_eq_some_iff.1 h).1

/-- A point is on an item exactly if it is on the menu and on a row of the item. -/
theorem itemAt?_eq_some_iff_mem (hpadding : 0 ≤ metrics.padding) (hitem : 0 < metrics.itemHeight) :
    m.itemAt? row col metrics = some i ↔
      m.contains row col = true ∧ i < m.items ∧ row ∈ m.itemRows metrics i := by
  have hoffset :
      row - m.position.rect.top - metrics.padding.tdiv 2 = row - m.itemTop metrics 0 := by
    rw [Int.tdiv_eq_ediv_of_nonneg hpadding, itemTop_zero, Int.sub_sub]
  rw [itemAt?_eq_some_iff, mem_itemRows_iff hitem, hoffset]
  simp only [hitem, true_and]

/-- A point is on no item exactly if it is not on the menu or on the padding. -/
theorem itemAt?_eq_none_iff (hpadding : 0 ≤ metrics.padding) (hitem : 0 < metrics.itemHeight) :
    m.itemAt? row col metrics = none ↔
      m.contains row col = false ∨ row < m.itemTop metrics 0 ∨
        m.itemTop metrics m.items ≤ row := by
  constructor
  · intro hnone
    by_contra hon
    rw [not_or, not_or, Bool.not_eq_false, Int.not_lt, Int.not_le] at hon
    obtain ⟨i, hi, hmem⟩ := exists_mem_itemRows hon.2.1 hon.2.2
    have hsome := (itemAt?_eq_some_iff_mem hpadding hitem).2 ⟨hon.1, hi, hmem⟩
    rw [hnone] at hsome
    cases hsome
  · intro hoff
    rw [Option.eq_none_iff_forall_ne_some]
    intro i hsome
    obtain ⟨hon, hi, hmem⟩ := (itemAt?_eq_some_iff_mem hpadding hitem).1 hsome
    have hfirst : m.itemTop metrics 0 ≤ m.itemTop metrics i :=
      itemTop_le_itemTop (Int.le_of_lt hitem) (Nat.zero_le i)
    have hlast : m.itemTop metrics (i + 1) ≤ m.itemTop metrics m.items :=
      itemTop_le_itemTop (Int.le_of_lt hitem) hi
    rw [mem_itemRows] at hmem
    simp only [hon, Bool.true_eq_false, false_or] at hoff
    omega

end OpenMenu

/-! ### A menu that opens -/

namespace Dropdown

/-- **A menu that opens shares no row with its button and falls into the rows of its items.** Let no
measure be negative, let an item be at least one row high, and let the menu have an item.
1. No row of the menu is a row of the button, and the menu ends on the right where the button ends
   or where the margin of the viewport begins, whichever comes first.
2. A point is on an item exactly if it is on the menu and on one of the rows of that item, which
   begin below the upper half of the padding and below the items before it.
3. The rows of an item are rows of the menu, and there are as many as an item is high.
4. A point is on no item exactly if it is not on the menu, or above the first item, or below the
   last. -/
theorem opening_partition {α : Type} {menu : ActionMenu α} (hmetrics : metrics.Nonneg)
    (hitem : 0 < metrics.itemHeight) (hmenu : menu.isEmpty = false) (row : Nat)
    (button viewport : Rect) :
    ∃ m, opening row menu button viewport metrics = some m ∧
      (∀ r ∈ m.position.rect.rows, r ∉ button.rows) ∧
      m.position.rect.right = min button.right (viewport.right - metrics.margin) ∧
      (∀ r c i, itemAt? (some m) r c metrics = some i ↔
        m.contains r c = true ∧ i < menu.size ∧ r ∈ m.itemRows metrics i) ∧
      (∀ i < menu.size, m.itemRows metrics i ⊆ m.position.rect.rows ∧
        (m.itemRows metrics i).Nodup ∧
        ((m.itemRows metrics i).length : Int) = metrics.itemHeight) ∧
      ∀ r c, itemAt? (some m) r c metrics = none ↔
        m.contains r c = false ∨ r < m.itemTop metrics 0 ∨ m.itemTop metrics menu.size ≤ r := by
  refine ⟨⟨row, .beside button viewport menu.size metrics, 0, menu.size⟩, ?_,
    fun r hr ↦ MenuPosition.not_mem_rows_of_mem_beside hmetrics hr, MenuPosition.right_beside ..,
    fun r c i ↦ ?_, fun i hi ↦ ?_, fun r c ↦ ?_⟩
  · rw [opening, hmenu]
    rfl
  · exact OpenMenu.itemAt?_eq_some_iff_mem hmetrics.padding hitem
  · exact ⟨OpenMenu.itemRows_subset hmetrics rfl hi, nodup_rowsFrom ..,
      length_rowsFrom _ hmetrics.itemHeight⟩
  · exact OpenMenu.itemAt?_eq_none_iff hmetrics.padding hitem

/-- A menu of two items on a screen of pixels. The padding is above the first item and below the
last, and where the first item ends the second begins. -/
theorem pixel_items_meet :
    let menu : ActionMenu Bool := .ofItems
      [{ label := "Edit", icon := "~", action := false },
       { label := "Delete", icon := "x", action := true, variant := .danger }]
    let d := opening 3 menu ⟨100, 980, 32, 32⟩ ⟨0, 0, 1000, 800⟩ .pixels
    MenuMetrics.pixels.Nonneg ∧ 0 < MenuMetrics.pixels.itemHeight ∧ menu.isEmpty = false ∧
      d.itemAt? 139 850 .pixels = none ∧ d.itemAt? 140 850 .pixels = some 0 ∧
      d.itemAt? 179 850 .pixels = some 0 ∧ d.itemAt? 180 850 .pixels = some 1 ∧
      d.itemAt? 219 850 .pixels = some 1 ∧ d.itemAt? 220 850 .pixels = none := by
  intro menu d
  have hmetrics : MenuMetrics.pixels.Nonneg := by constructor <;> decide
  have hmenu : menu.isEmpty = false := rfl
  let m : OpenMenu := ⟨3, ⟨⟨136, 832, 160, 88⟩, false⟩, 0, 2⟩
  obtain ⟨m', hm, -, -, hsome, hrows, hnone⟩ :=
    opening_partition hmetrics (by decide) hmenu 3 ⟨100, 980, 32, 32⟩ ⟨0, 0, 1000, 800⟩
  obtain rfl : m = m' := Option.some.inj hm
  have hitem : ∀ (r : Int) (i : Nat), i < 2 → r ∈ m.itemRows .pixels i →
      d.itemAt? r 850 .pixels = some i := fun r i hi hr ↦
    (hsome r 850 i).2 ⟨Rect.contains_iff.2 ⟨(hrows i hi).1 hr, by decide, by decide⟩, hi, hr⟩
  exact ⟨hmetrics, by decide, hmenu, (hnone 139 850).2 (.inr (.inl (by decide))),
    hitem 140 0 (by decide) (by decide), hitem 179 0 (by decide) (by decide),
    hitem 180 1 (by decide) (by decide), hitem 219 1 (by decide) (by decide),
    (hnone 220 850).2 (.inr (.inr (by decide)))⟩

end Dropdown

end PitchDesk
