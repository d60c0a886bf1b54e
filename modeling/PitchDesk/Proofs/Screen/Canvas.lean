import PitchDesk.Proofs.Screen.Panes
import PitchDesk.Screen.Draw

/-!
# Layers of the screen

Whatever is drawn is a layer that keeps to an area: the cells outside stay as they are, and what
becomes of a cell depends on that cell alone, `DrawsIn`. Layers one after another keep to what
their areas lie in. So what a cell shows is decided by the layers whose areas it is in, and the
others can be left out.

Inside its border a frame leaves everything as it is, `spot_framed_of_inner`, and each line of a
text looks as if it was drawn alone, `spot_paragraph_of_line`.

## What is said of a cell

The statements compare what a cell shows under two ways of drawing, and never say which glyphs a
text has: how characters are joined to glyphs and how wide these are enters nowhere here. What is
shown of a row is told in this way by drawing it alone on its line. The first part of `DrawsIn`
removes the layers drawn elsewhere, the second one puts those below away: a cell on which two
canvases agree is the same under the layer on both.
-/

namespace PitchDesk

/-! ### Lines and columns of an area -/

namespace Area

variable {a b : Area} {x y : Nat}

/-- The lines of an area lie in it. -/
theorem lineArea_within {i : Nat} (h : i < a.height) : (Canvas.lineArea a i).Within a := by
  intro x y hin
  simp only [contains_iff, Canvas.lineArea, right, bottom] at hin ⊢
  omega

/-- The columns of a table lie in the line that they divide. -/
theorem tableColumn_within {n k : Nat} (hk : k < n) :
    (Canvas.tableColumn a n k).Within (Canvas.lineArea a 0) := by
  have hright : Canvas.nearest ((k + 1) * (a.width + 1) - n) n ≤ a.width := by
    have hmul : (k + 1) * (a.width + 1) ≤ n * (a.width + 1) := Nat.mul_le_mul_right _ hk
    have hn : n ≤ n * (a.width + 1) := Nat.le_mul_of_pos_right _ (Nat.succ_pos _)
    refine Nat.le_of_lt_succ (Nat.div_lt_of_lt_mul ?_)
    rw [Nat.mul_assoc, Nat.succ_eq_add_one]
    omega
  intro x y hin
  simp only [contains_iff, Canvas.tableColumn, Canvas.lineArea, right, bottom] at hin ⊢
  omega

/-- A cell on a line of an area, counted from its first line. -/
theorem contains_lineArea (h : a.contains x y = true) :
    (Canvas.lineArea a (y - a.y)).contains x y = true := by
  simp only [contains_iff, Canvas.lineArea, right, bottom] at h ⊢
  omega

/-- No cell is on another line than its own. -/
theorem contains_lineArea_eq_false {i : Nat} (h : y ≠ a.y + i) :
    (Canvas.lineArea a i).contains x y = false := by
  rw [← Bool.not_eq_true, contains_iff]
  simp only [Canvas.lineArea, bottom]
  omega

end Area

namespace Canvas

open Area

/-! ### Layers that keep to an area -/

/-- A layer keeps to an area. -/
structure DrawsIn (a : Area) (f : Canvas → Canvas) : Prop where
  /-- The cells outside the area stay as they are. -/
  outside {c : Canvas} {x y : Nat} (h : a.contains x y = false) : (f c).spot x y = c.spot x y
  /-- What becomes of a cell depends on that cell alone. -/
  congr {c c' : Canvas} {x y : Nat} (h : c.spot x y = c'.spot x y) :
    (f c).spot x y = (f c').spot x y

variable {a b : Area} {c c' : Canvas} {f g : Canvas → Canvas} {x y : Nat}

namespace DrawsIn

protected theorem id (a : Area) : DrawsIn a fun c ↦ c := ⟨fun _ ↦ rfl, id⟩

/-- Two layers that keep to an area do so together. -/
theorem comp (hg : DrawsIn a g) (hf : DrawsIn a f) : DrawsIn a fun c ↦ g (f c) where
  outside h := (hg.outside h).trans (hf.outside h)
  congr h := hg.congr (hf.congr h)

/-- A layer that keeps to an area keeps to a larger one. -/
theorem mono (hf : DrawsIn a f) (h : a.Within b) : DrawsIn b f where
  outside hout := hf.outside (Bool.not_eq_true _ ▸ fun hin ↦ by simp [h _ _ hin] at hout)
  congr := hf.congr

theorem foldl {α : Type} {f : Canvas → α → Canvas} {l : List α}
    (h : ∀ k ∈ l, DrawsIn a (f · k)) : DrawsIn a fun c ↦ l.foldl f c := by
  induction l with
  | nil => exact .id a
  | cons k l ih =>
    exact (ih fun j hj ↦ h j (List.mem_cons_of_mem _ hj)).comp (h k List.mem_cons_self)

end DrawsIn

/-! ### The ways of drawing -/

theorem drawsIn_change (a : Area) (f : Nat → Nat → Spot → Spot) : DrawsIn a (·.change a f) where
  outside h := if_neg (by simp [h])
  congr h := by simp only [change, h]

theorem drawsIn_restyle (a : Area) (s : Style) : DrawsIn a (·.restyle a s) :=
  drawsIn_change a _

theorem drawsIn_border (a : Area) (s : Style) : DrawsIn a (·.border a s) :=
  drawsIn_change a _

theorem drawsIn_paragraph (a : Area) (lines : List (List Piece)) :
    DrawsIn a (·.paragraph a lines) := by
  unfold paragraph
  exact drawsIn_change a _

theorem drawsIn_inscribe (a : Area) (text : String) : DrawsIn a (·.inscribe a text) := by
  by_cases h : a.isEmpty = true
  · simpa only [inscribe, if_pos h] using DrawsIn.id a
  · simp only [inscribe, if_neg h]
    refine (drawsIn_change _ _).mono fun x y hin ↦ ?_
    simp only [isEmpty, Bool.or_eq_true, beq_iff_eq] at h
    simp only [contains_iff, right, bottom] at hin ⊢
    omega

/-- Texts one after another stay in their area, since what one takes is taken from the area of the
next. -/
theorem drawsIn_label (texts : List String) (a : Area) : DrawsIn a (·.label a texts) := by
  induction texts generalizing a with
  | nil => exact .id a
  | cons text rest ih =>
    by_cases h : Text.width text = 0
    · simpa only [label, if_pos h] using ih a
    · simp only [label, if_neg h]
      refine ((ih _).mono fun x y hin ↦ ?_).comp (drawsIn_inscribe a text)
      simp only [contains_iff, right, bottom] at hin ⊢
      omega

/-- The title stands in the upper edge. -/
theorem title_within (a : Area) (width : Nat) :
    (⟨a.x + 1, a.y, min width (a.width - 2), min a.height 1⟩ : Area).Within a := by
  intro x y hin
  simp only [contains_iff, right, bottom] at hin ⊢
  omega

theorem drawsIn_framed (a : Area) (s : Style) (title : String) : DrawsIn a (·.framed a s title) :=
  ((drawsIn_label _ _).mono (title_within a _)).comp (drawsIn_border a s)

theorem drawsIn_tableCells (a : Area) (cells : List (String × Style)) :
    DrawsIn (lineArea a 0) (·.tableCells a cells) := by
  refine DrawsIn.foldl fun k hk ↦ ?_
  have hlt : k.2 < cells.length := List.snd_lt_of_mem_zipIdx hk
  exact ((drawsIn_label _ _).comp (drawsIn_restyle _ _)).mono (tableColumn_within hlt)

/-! ### What stays inside a border -/

/-- No part of a border is inside it. -/
theorem borderSymbol?_eq_none (h : a.inner.contains x y = true) : borderSymbol? a x y = none := by
  obtain ⟨⟨hx, hright⟩, hy, hbottom, hinner⟩ := lt_of_inner_contains h
  have hleft : (x == a.x) = false := beq_false_of_ne (Nat.ne_of_gt hx)
  have htop : (y == a.y) = false := beq_false_of_ne (by omega)
  have hright : (x + 1 == a.right) = false := beq_false_of_ne (Nat.ne_of_lt hright)
  have hbottom : (y + 1 == a.bottom) = false := beq_false_of_ne (Nat.ne_of_lt hbottom)
  simp [borderSymbol?, hleft, htop, hright, hbottom]

/-- A border leaves what is inside it as it is. -/
theorem spot_border_of_inner (h : a.inner.contains x y = true) (s : Style) :
    (c.border a s).spot x y = c.spot x y := by
  simp only [border, change, borderSymbol?_eq_none h, ite_self]

/-- A frame leaves what it encloses as it is. -/
theorem spot_framed_of_inner (h : a.inner.contains x y = true) (s : Style) (title : String) :
    (c.framed a s title).spot x y = c.spot x y := by
  have hborder := lt_of_inner_contains h
  refine ((drawsIn_label _ _).outside ?_).trans (spot_border_of_inner h s)
  rw [← Bool.not_eq_true, contains_iff]
  simp only [bottom]
  omega

/-! ### Lines of text -/

/-- On each line of an area a text looks as if it was drawn there alone. -/
theorem spot_paragraph_of_line {lines : List (List Piece)} {line : List Piece}
    (h : a.contains x y = true) (hline : lines[y - a.y]? = some line) :
    (c.paragraph a lines).spot x y =
      (c.paragraph (lineArea a (y - a.y)) [line]).spot x y := by
  have hheight : y - a.y < a.height := by
    simp only [contains_iff, bottom] at h
    omega
  have hy : y - (lineArea a (y - a.y)).y = 0 := by
    simp only [contains_iff] at h
    simp only [lineArea]
    omega
  simp only [paragraph, change, if_pos h, if_pos (contains_lineArea h), hy, List.getElem?_map,
    List.getElem?_take_of_lt hheight, hline]
  rfl

/-- Where a text has no line nothing changes. -/
theorem spot_paragraph_of_none {lines : List (List Piece)} (hline : lines[y - a.y]? = none) :
    (c.paragraph a lines).spot x y = c.spot x y := by
  have htake : (lines.take a.height)[y - a.y]? = none := by
    rw [List.getElem?_eq_none_iff] at hline ⊢
    exact Nat.le_trans (List.length_take_le' _ _) hline
  simp only [paragraph, change, List.getElem?_map, htake, Option.map_none, Option.getD_none,
    List.find?_nil, ite_self]

end Canvas

end PitchDesk
