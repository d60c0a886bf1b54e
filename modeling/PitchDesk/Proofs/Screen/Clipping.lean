import PitchDesk.Proofs.Screen.Canvas

/-!
# The open menu is cut off at the screen's edges

A menu is placed in signed numbers of 32 bits, and may stand partly or wholly outside of the
screen, which is measured in numbers of 16 bits. Before the menu is drawn its edges are brought
between those of the screen, and what comes out is narrowed to 16 bits, `WordRect.clip?` and
`WordRect.narrow`. Every step of this may go wrong: a sum may not fit, two bounds may have the
wrong order, and a number may have no place in 16 bits, where it would become zero.

None of them does, since each edge is brought behind the one before it and before the end of the
screen. So the numbers that come out are those of `Area.ofRect`, which works on all integers
(`WordRect.exists_clip?_eq`), and of these it is enough to look at lines and columns by themselves:
what is left of either is what the menu and the screen have in common, `Area.overlap_clamp`.

## Two layers of numbers

The desk is drawn with `Area` and `Rect`, whose measures are unbounded, so that drawing can be
reasoned about without asking at each sum whether it fits. Words are in this module only: each step
on them either gives the word of the number that the step on integers gives, or fails, and `Word`
has one lemma for each step that says when it does not. So the unbounded drawing is what the words
compute, as long as the edges of the screen fit 16 bits and those of the menu 32.
-/

namespace PitchDesk

/-! ### What two rectangles have in common -/

/-- The rectangle that two rectangles have in common. If they have nothing in common, its width or
its height is not positive. -/
def Rect.meet (r s : Rect) : Rect where
  top := max r.top s.top
  left := max r.left s.left
  width := min r.right s.right - max r.left s.left
  height := min r.bottom s.bottom - max r.top s.top

namespace Area

/-- A number brought between two bounds is between them. -/
theorem clamp_bounds {low high : Int} (h : low ≤ high) (n : Int) :
    low ≤ clamp low high n ∧ clamp low high n ≤ high := by
  simp only [clamp]
  omega

/-- A stretch of lines or columns is what two others have in common: it lies in the first, has the
length of what is in both, and if that is any, starts where both have started. -/
structure Overlap (first last start stop : Int) (low length : Nat) : Prop where
  inside : first ≤ low ∧ low + length ≤ last
  size : (length : Int) = max 0 (min last stop - max first start)
  starts : 0 < length → (low : Int) = max first start

/-- What is left of a stretch is what it had in common with the one from the first to the last, when
its start is brought between these two, and its end between the new start and the last. -/
theorem overlap_clamp {first last : Int} (hfirst : 0 ≤ first) (h : first ≤ last)
    (start stop : Int) :
    Overlap first last start stop (clamp first last start).toNat
      (clamp (clamp first last start) last stop - clamp first last start).toNat := by
  rcases Int.le_total start first with hbefore | hstart
  · have heq : clamp first last start = first := by
      rw [clamp, Int.max_eq_left (Int.le_trans (Int.min_le_right _ _) hbefore)]
    rw [heq, clamp]
    constructor <;> omega
  · rcases Int.le_total start last with hinside | hbehind
    · have heq : clamp first last start = start := by
        rw [clamp, Int.min_eq_right hinside, Int.max_eq_right hstart]
      rw [heq, clamp]
      constructor <;> omega
    · have heq : clamp first last start = last := by
        rw [clamp, Int.min_eq_left hbehind, Int.max_eq_right h]
      rw [heq, clamp]
      constructor <;> omega

/-- A line or column is in the stretch exactly if it is in both others. -/
theorem Overlap.mem_iff {first last start stop : Int} {low length : Nat}
    (h : Overlap first last start stop low length) (n : Nat) :
    (low ≤ n ∧ n < low + length) ↔ (first ≤ n ∧ n < last) ∧ start ≤ n ∧ n < stop := by
  obtain ⟨hinside, hsize, hstarts⟩ := h
  rcases Nat.eq_zero_or_pos length with rfl | hpos
  · omega
  · have hlow := hstarts hpos
    omega

/-- The columns that are left of a rectangle are those that it has in common with the area. -/
theorem overlap_columns (bounds : Area) (r : Rect) :
    Overlap bounds.x bounds.right r.left r.right (bounds.ofRect r).x (bounds.ofRect r).width :=
  overlap_clamp (Int.natCast_nonneg _) (Int.ofNat_le.2 (Nat.le_add_right _ _)) r.left r.right

theorem overlap_rows (bounds : Area) (r : Rect) :
    Overlap bounds.y bounds.bottom r.top r.bottom (bounds.ofRect r).y (bounds.ofRect r).height :=
  overlap_clamp (Int.natCast_nonneg _) (Int.ofNat_le.2 (Nat.le_add_right _ _)) r.top r.bottom

/-- Whatever is cut off, what is left ends where the area does, or before. -/
theorem ofRect_inside (bounds : Area) (r : Rect) :
    (bounds.x ≤ (bounds.ofRect r).x ∧ (bounds.ofRect r).right ≤ bounds.right) ∧
      bounds.y ≤ (bounds.ofRect r).y ∧ (bounds.ofRect r).bottom ≤ bounds.bottom := by
  have hcolumns := (overlap_columns bounds r).inside
  have hrows := (overlap_rows bounds r).inside
  rw [right, bottom]
  omega

/-- The cells that are left of a rectangle are those of the area that lie in it. -/
theorem contains_ofRect (bounds : Area) (r : Rect) (x y : Nat) :
    (bounds.ofRect r).contains x y = (bounds.contains x y && r.contains y x) := by
  have hcolumn := (overlap_columns bounds r).mem_iff x
  have hrow := (overlap_rows bounds r).mem_iff y
  rw [Bool.eq_iff_iff, Bool.and_eq_true, contains_iff, contains_iff, right, bottom, hcolumn, hrow]
  simp only [Rect.contains, Bool.and_eq_true, decide_eq_true_eq]
  omega

/-- What is left of a rectangle lies in the area. -/
theorem ofRect_within (bounds : Area) (r : Rect) : (bounds.ofRect r).Within bounds := by
  intro x y hin
  rw [contains_ofRect, Bool.and_eq_true] at hin
  exact hin.1

/-- What is left of a rectangle is what it has in common with the area. If that is nothing, no cells
are left. -/
theorem toRect_ofRect (bounds : Area) (r : Rect) :
    if 0 < (bounds.toRect.meet r).width ∧ 0 < (bounds.toRect.meet r).height then
      (bounds.ofRect r).toRect = bounds.toRect.meet r
    else (bounds.ofRect r).isEmpty = true := by
  have hcolumns := overlap_columns bounds r
  have hrows := overlap_rows bounds r
  have hwidth : ((bounds.ofRect r).width : Int) = max 0 (bounds.toRect.meet r).width :=
    hcolumns.size
  have hheight : ((bounds.ofRect r).height : Int) = max 0 (bounds.toRect.meet r).height :=
    hrows.size
  split
  · rename_i hboth
    rw [Int.max_eq_right (Int.le_of_lt hboth.1)] at hwidth
    rw [Int.max_eq_right (Int.le_of_lt hboth.2)] at hheight
    have hleft := hcolumns.starts (by omega)
    have htop := hrows.starts (by omega)
    rw [toRect, htop, hleft, hwidth, hheight]
    rfl
  · simp only [isEmpty, Bool.or_eq_true, beq_iff_eq]
    omega

end Area

/-! ### Numbers of 32 and of 16 bits -/

namespace Word

/-- A number, if it fits 32 bits. -/
def ofInt? (n : Int) : Option Int32 :=
  if -0x80000000 ≤ n ∧ n ≤ 0x7FFFFFFF then some (.ofInt n) else none

theorem exists_ofInt?_eq {n : Int} (h : -0x80000000 ≤ n ∧ n ≤ 0x7FFFFFFF) :
    ∃ w, ofInt? n = some w ∧ w.toInt = n :=
  ⟨.ofInt n, if_pos h, Int32.toInt_ofInt_of_le h.1 (Int.lt_add_one_of_le h.2)⟩

/-- A number brought between two bounds, if they have the right order. -/
def clamp? (low high n : Int32) : Option Int32 :=
  if low ≤ high then some (if n < low then low else if high < n then high else n) else none

/-- Between bounds in the right order, words are brought as their numbers are. -/
theorem exists_clamp?_eq {low high : Int32} (h : low.toInt ≤ high.toInt) (n : Int32) :
    ∃ c, clamp? low high n = some c ∧ c.toInt = Area.clamp low.toInt high.toInt n.toInt := by
  refine ⟨_, if_pos (Int32.le_iff_toInt_le.2 h), ?_⟩
  rw [Area.clamp, apply_ite Int32.toInt, apply_ite Int32.toInt]
  simp only [Int32.lt_iff_toInt_lt]
  split
  · omega
  · split <;> omega

/-- A number of 16 bits in 32. -/
def widen (n : UInt16) : Int32 :=
  .ofNat n.toNat

@[simp]
theorem toInt_widen (n : UInt16) : (widen n).toInt = n.toNat :=
  Int32.toInt_ofNat_of_lt (Nat.lt_trans n.toNat_lt (by decide))

/-- A number of 32 bits in 16, if it fits. -/
def narrow? (n : Int32) : Option UInt16 :=
  if 0 ≤ n.toInt ∧ n.toInt ≤ 0xFFFF then some (.ofNat n.toInt.toNat) else none

/-- A number that fits 16 bits is narrowed to its word. -/
theorem exists_narrow?_eq {n : Int32} {k : Nat} (h : n.toInt = k) (hk : k ≤ 0xFFFF) :
    ∃ w, narrow? n = some w ∧ w.toNat = k := by
  refine ⟨.ofNat k, ?_, UInt16.toNat_ofNat_of_lt' (Nat.lt_succ_of_le hk)⟩
  rw [narrow?, if_pos (by omega), h, Int.toNat_natCast]

/-- The sum of two numbers of 16 bits, or the greatest of all. -/
def saturatingAdd (m n : UInt16) : UInt16 :=
  .ofNat (min (m.toNat + n.toNat) 0xFFFF)

theorem toNat_saturatingAdd {m n : UInt16} (h : m.toNat + n.toNat ≤ 0xFFFF) :
    (saturatingAdd m n).toNat = m.toNat + n.toNat := by
  rw [saturatingAdd, Nat.min_eq_left h]
  exact UInt16.toNat_ofNat_of_lt' (Nat.lt_succ_of_le h)

/-- A stretch of lines or columns, given by its start and its size, brought between the first and
the last of a frame. -/
def clipSpan? (first last : UInt16) (start size : Int32) : Option (Int32 × Int32) := do
  let stop ← ofInt? (start.toInt + size.toInt)
  let low ← clamp? (widen first) (widen last) start
  let high ← clamp? low (widen last) stop
  return (low, ← ofInt? (high.toInt - low.toInt))

/-- No step goes wrong, since what is brought before the last is not before the first. -/
theorem exists_clipSpan?_eq {first last : UInt16} {start size : Int32}
    (hframe : first.toNat ≤ last.toNat)
    (hfits : -0x80000000 ≤ start.toInt + size.toInt ∧ start.toInt + size.toInt ≤ 0x7FFFFFFF) :
    ∃ low length, clipSpan? first last start size = some (low, length) ∧
      low.toInt = (Area.clamp first.toNat last.toNat start.toInt).toNat ∧
      length.toInt = (Area.clamp (Area.clamp first.toNat last.toNat start.toInt) last.toNat
        (start.toInt + size.toInt) - Area.clamp first.toNat last.toNat start.toInt).toNat := by
  have hlast : last.toNat ≤ 0xFFFF := Nat.le_of_lt_succ last.toNat_lt
  have hwiden : (widen first).toInt ≤ (widen last).toInt := by simpa using hframe
  -- each step has a result in range, the bounds of one being the room of the next
  obtain ⟨stop, hstop, hstop_eq⟩ := exists_ofInt?_eq hfits
  obtain ⟨low, hlow, hlow_eq⟩ := exists_clamp?_eq hwiden start
  have hlow_bounds := Area.clamp_bounds hwiden start.toInt
  rw [← hlow_eq] at hlow_bounds
  obtain ⟨high, hhigh, hhigh_eq⟩ := exists_clamp?_eq hlow_bounds.2 stop
  have hhigh_bounds := Area.clamp_bounds hlow_bounds.2 stop.toInt
  rw [← hhigh_eq] at hhigh_bounds
  rw [toInt_widen, toInt_widen] at hlow_eq hlow_bounds
  rw [toInt_widen, hstop_eq] at hhigh_eq
  rw [toInt_widen] at hhigh_bounds
  obtain ⟨length, hlength, hlength_eq⟩ : ∃ w, ofInt? (high.toInt - low.toInt) = some w ∧ _ :=
    exists_ofInt?_eq (by omega)
  refine ⟨low, length, ?_, ?_, ?_⟩
  · simp only [clipSpan?, hstop, hlow, hhigh, hlength, Option.bind_eq_bind, Option.bind_some]
    rfl
  · rw [← hlow_eq]
    omega
  · rw [← hlow_eq, ← hhigh_eq, hlength_eq]
    omega

end Word

open Word

/-! ### Rectangles of words -/

/-- An area whose measures have 16 bits. -/
structure WordArea where
  x : UInt16
  y : UInt16
  width : UInt16
  height : UInt16
  deriving DecidableEq, Repr

namespace WordArea

def toArea (a : WordArea) : Area :=
  ⟨a.x.toNat, a.y.toNat, a.width.toNat, a.height.toNat⟩

/-- The area from a cell on. Its width and its height are made so small that its edges fit 16 bits.
-/
def new (x y width height : UInt16) : WordArea :=
  ⟨x, y, saturatingAdd x width - x, saturatingAdd y height - y⟩

def right (a : WordArea) : UInt16 :=
  saturatingAdd a.x a.width

def bottom (a : WordArea) : UInt16 :=
  saturatingAdd a.y a.height

/-- The edges of an area fit 16 bits. -/
structure Fits (a : WordArea) : Prop where
  right : a.toArea.right ≤ 0xFFFF
  bottom : a.toArea.bottom ≤ 0xFFFF

/-- Measures that fit stay as they are. -/
theorem new_eq (a : WordArea) (h : a.Fits) : new a.x a.y a.width a.height = a := by
  have hsub {m n : UInt16} (h : m.toNat + n.toNat ≤ 0xFFFF) : saturatingAdd m n - m = n := by
    rw [← UInt16.toNat_inj, UInt16.toNat_sub_of_le, toNat_saturatingAdd h, Nat.add_sub_cancel_left]
    rw [UInt16.le_iff_toNat_le, toNat_saturatingAdd h]
    exact Nat.le_add_right _ _
  rw [new, hsub h.right, hsub h.bottom]

end WordArea

/-- A rectangle whose measures have 32 bits. -/
structure WordRect where
  top : Int32
  left : Int32
  width : Int32
  height : Int32
  deriving DecidableEq, Repr

namespace WordRect

def toRect (r : WordRect) : Rect :=
  ⟨r.top.toInt, r.left.toInt, r.width.toInt, r.height.toInt⟩

/-- The edges of a rectangle fit 32 bits. -/
structure Fits (r : WordRect) : Prop where
  right : -0x80000000 ≤ r.toRect.right ∧ r.toRect.right ≤ 0x7FFFFFFF
  bottom : -0x80000000 ≤ r.toRect.bottom ∧ r.toRect.bottom ≤ 0x7FFFFFFF

/-- A rectangle with its edges brought between those of a frame. -/
def clip? (r : WordRect) (frame : WordArea) : Option WordRect := do
  let (top, height) ← clipSpan? frame.y frame.bottom r.top r.height
  let (left, width) ← clipSpan? frame.x frame.right r.left r.width
  return ⟨top, left, width, height⟩

/-- The measures of a rectangle. -/
def measures (r : WordRect) : List Int32 :=
  [r.left, r.top, r.width, r.height]

/-- A rectangle as an area of the screen. A measure that does not fit 16 bits becomes zero. -/
def narrow (r : WordRect) : WordArea :=
  .new ((narrow? r.left).getD 0) ((narrow? r.top).getD 0) ((narrow? r.width).getD 0)
    ((narrow? r.height).getD 0)

variable {r c : WordRect} {frame : WordArea} {a : Area}

/-- Clipping comes to an end, with the part of the rectangle that lies in the frame. -/
theorem exists_clip?_eq (hframe : frame.Fits) (hr : r.Fits) :
    ∃ c, r.clip? frame = some c ∧ c.toRect = (frame.toArea.ofRect r.toRect).toRect := by
  have hright : frame.right.toNat = frame.toArea.right := toNat_saturatingAdd hframe.right
  have hbottom : frame.bottom.toNat = frame.toArea.bottom := toNat_saturatingAdd hframe.bottom
  have hx : frame.x.toNat ≤ frame.right.toNat := hright ▸ Nat.le_add_right frame.x.toNat _
  have hy : frame.y.toNat ≤ frame.bottom.toNat := hbottom ▸ Nat.le_add_right frame.y.toNat _
  obtain ⟨top, height, hrows, htop, hheight⟩ := exists_clipSpan?_eq hy hr.bottom
  obtain ⟨left, width, hcolumns, hleft, hwidth⟩ := exists_clipSpan?_eq hx hr.right
  refine ⟨⟨top, left, width, height⟩, ?_, ?_⟩
  · rw [clip?, hrows, hcolumns]
    rfl
  · rw [toRect, htop, hleft, hwidth, hheight, hright, hbottom]
    rfl

/-- The measures of an area whose edges fit 16 bits are narrowed as they are. -/
theorem narrow_eq (hc : c.toRect = a.toRect) (hright : a.right ≤ 0xFFFF)
    (hbottom : a.bottom ≤ 0xFFFF) :
    (∀ n ∈ c.measures, (narrow? n).isSome = true) ∧ c.narrow.toArea = a := by
  obtain ⟨htop, hleft, hwidth, hheight⟩ := Rect.mk.inj hc
  rw [Area.right] at hright
  rw [Area.bottom] at hbottom
  obtain ⟨x, hx, hx_eq⟩ := exists_narrow?_eq hleft (by omega)
  obtain ⟨y, hy, hy_eq⟩ := exists_narrow?_eq htop (by omega)
  obtain ⟨w, hw, hw_eq⟩ := exists_narrow?_eq hwidth (by omega)
  obtain ⟨h, hh, hh_eq⟩ := exists_narrow?_eq hheight (by omega)
  refine ⟨by simp [measures, hx, hy, hw, hh], ?_⟩
  have ha : (⟨x, y, w, h⟩ : WordArea).toArea = a := by
    rw [WordArea.toArea, hx_eq, hy_eq, hw_eq, hh_eq]
  have hfits : (⟨x, y, w, h⟩ : WordArea).Fits := ⟨by rwa [ha], by rwa [ha]⟩
  rw [narrow, hx, hy, hw, hh]
  exact (congrArg WordArea.toArea (WordArea.new_eq _ hfits)).trans ha

end WordRect

/-! ### Drawing -/

/-- The menu is drawn in the part of its rectangle that lies on the screen, so nothing of it is
drawn outside. -/
theorem Canvas.drawsIn_menu (screen : Area) (d : Desk) : DrawsIn screen (·.menu screen d) := by
  cases hm : d.menu with
  | none => simpa only [menu, hm] using DrawsIn.id screen
  | some m =>
    cases hmenu : d.openMenu? with
    | none => simpa only [menu, hm, hmenu] using DrawsIn.id screen
    | some found =>
      have hbox := Area.ofRect_within screen m.position.rect
      simp only [menu, hm, hmenu]
      generalize screen.ofRect m.position.rect = box at hbox ⊢
      by_cases hempty : box.isEmpty = true
      · simpa only [if_pos hempty] using DrawsIn.id screen
      · simp only [if_neg hempty]
        refine DrawsIn.mono ?_ hbox
        have hlines (lines : List (List Piece)) : DrawsIn box (·.paragraph box.inner lines) :=
          (drawsIn_paragraph box.inner lines).mono box.inner_within
        exact (hlines _).comp ((drawsIn_border box .plain).comp (drawsIn_change box _))

/-- **Of a menu anywhere, what is on the screen is drawn, and nothing else.** Let the edges of the
screen fit 16 bits and those of the menu 32.
1. Clipping comes to an end, and none of the four numbers that are narrowed becomes zero for want of
room.
2. The area that comes out is the one that the menu is drawn in, and its edges are those of the
screen or between them.
3. It is what the menu and the screen have in common, with all its cells. If that is nothing, it has
no width or no height.
4. Whatever the menu shows, no cell outside of the screen changes when it is drawn. -/
theorem WordRect.menu_clipped_to_frame {frame : WordArea} {r : WordRect} (hframe : frame.Fits)
    (hr : r.Fits) :
    ∃ c, r.clip? frame = some c ∧
      (∀ n ∈ c.measures, (narrow? n).isSome = true) ∧
      (c.narrow.toArea = frame.toArea.ofRect r.toRect ∧
        (frame.toArea.x ≤ c.narrow.toArea.x ∧ c.narrow.toArea.right ≤ frame.toArea.right) ∧
        frame.toArea.y ≤ c.narrow.toArea.y ∧ c.narrow.toArea.bottom ≤ frame.toArea.bottom) ∧
      ((∀ x y : Nat, c.narrow.toArea.contains x y =
          (frame.toArea.contains x y && r.toRect.contains y x)) ∧
        if 0 < (frame.toArea.toRect.meet r.toRect).width ∧
            0 < (frame.toArea.toRect.meet r.toRect).height then
          c.narrow.toArea.toRect = frame.toArea.toRect.meet r.toRect
        else c.narrow.toArea.isEmpty = true) ∧
      ∀ d : Desk, Canvas.DrawsIn frame.toArea (·.menu frame.toArea d) := by
  obtain ⟨c, hclip, hc⟩ := exists_clip?_eq hframe hr
  have hinside := Area.ofRect_inside frame.toArea r.toRect
  obtain ⟨hmeasures, harea⟩ := narrow_eq hc (Nat.le_trans hinside.1.2 hframe.right)
    (Nat.le_trans hinside.2.2 hframe.bottom)
  refine ⟨c, hclip, hmeasures, ?_⟩
  rw [harea]
  exact ⟨⟨rfl, hinside⟩, ⟨Area.contains_ofRect _ _, Area.toRect_ofRect _ _⟩,
    Canvas.drawsIn_menu _⟩

/-- A menu that begins above the first line of a screen of ten lines loses its first line. -/
theorem WordRect.menu_cut_off_at_top :
    let frame : WordArea := ⟨0, 0, 80, 10⟩
    let r : WordRect := ⟨-1, 57, 22, 8⟩
    frame.Fits ∧ r.Fits ∧ ∃ c, r.clip? frame = some c ∧ c.narrow.toArea = ⟨57, 0, 22, 7⟩ := by
  intro frame r
  have hframe : frame.Fits := ⟨by decide, by decide⟩
  have hr : r.Fits := ⟨by decide, by decide⟩
  obtain ⟨c, hclip, -, ⟨harea, -⟩, -⟩ := menu_clipped_to_frame hframe hr
  exact ⟨hframe, hr, c, hclip, harea.trans (by decide)⟩

end PitchDesk
