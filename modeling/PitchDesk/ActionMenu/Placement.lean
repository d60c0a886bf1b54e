/-!
# Where a menu stands

Rectangles in screen coordinates, and the place of a menu beside the button that opened it: below
the button, or above it when the space below is too short, and to the left as far as its right edge
has to be inside the viewport's margin.

Measures are integers without a bound, and the same rules place a menu on a screen of pixels and on
one of cells, with other metrics. Nothing keeps a menu on the screen: if there is no room on either
side of the button it reaches over the edge, and whoever draws it cuts it off there.
-/

namespace PitchDesk

/-- A rectangle of screen cells or pixels, rows counted downward and columns to the right. -/
structure Rect where
  top : Int
  left : Int
  width : Int
  height : Int
  deriving DecidableEq, Repr

namespace Rect

/-- The first row below a rectangle. -/
def bottom (r : Rect) : Int := r.top + r.height

/-- The first column to the right of a rectangle. -/
def right (r : Rect) : Int := r.left + r.width

/-- Whether a point lies in a rectangle. -/
def contains (r : Rect) (row col : Int) : Bool :=
  r.top ≤ row && row < r.bottom && r.left ≤ col && col < r.right

end Rect

/-- The measures of a menu. -/
structure MenuMetrics where
  itemHeight : Int
  /-- What the two borders above and below the items take together. -/
  padding : Int
  width : Int
  /-- The distance between the button and a menu below it. -/
  gap : Int
  margin : Int
  deriving DecidableEq, Repr

namespace MenuMetrics

/-- The measures on a screen of pixels. -/
def pixels : MenuMetrics := ⟨40, 8, 160, 4, 8⟩

/-- The measures on a screen of cells: one row for each item, and one for each border. -/
def cells : MenuMetrics := ⟨1, 2, 22, 0, 1⟩

/-- How high a menu with some items is. -/
def menuHeight (m : MenuMetrics) (items : Nat) : Int :=
  items * m.itemHeight + m.padding

end MenuMetrics

/-- The place of an open menu. -/
structure MenuPosition where
  rect : Rect
  opensUpward : Bool
  deriving DecidableEq, Repr

namespace MenuPosition

/-- The place of a menu with some items beside its button. -/
def beside (button viewport : Rect) (items : Nat) (m : MenuMetrics) : MenuPosition :=
  let height := m.menuHeight items
  let upward := decide (viewport.bottom - button.bottom < height)
  { rect :=
      { top := if upward then button.top - height else button.bottom + m.gap
        left := min (button.right - m.width) (viewport.right - m.margin - m.width)
        width := m.width
        height := height }
    opensUpward := upward }

end MenuPosition

end PitchDesk
