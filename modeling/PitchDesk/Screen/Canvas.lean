import PitchDesk.Screen.Area
import PitchDesk.Text.Blank
import PitchDesk.Text.Width

/-!
# Drawing on the screen

A canvas holds a symbol and a style for each cell of the screen. It is drawn on in layers: a later
layer lies over what was drawn before, and its style is laid over the style that a cell has.

What a border, a title and lines of text look like is not decided by the program but by the widgets
of ratatui 0.29 that it draws with, and is taken over from them: text is never wrapped but cut off,
what has no width is left out, a title is written glyph by glyph while lines of text are placed, and
a style that gives nothing leaves what is there. Results on what the screen shows rest on this.

Text is drawn as glyphs. Each cluster of characters is one glyph, which takes some cells next to
each other, or none (`Text.glyphs`). Each line of a text ends with a line feed, which a carriage
return may stand before, except that the last one may end with the text (`Text.lines`).
-/

namespace PitchDesk

namespace Text

/-! ### Glyphs and lines -/

/-- What is shown in one place, and how many cells it takes. -/
structure Glyph where
  symbol : String
  width : Nat
  deriving DecidableEq, Repr

/-- The glyph of some characters. -/
def Glyph.ofList (cs : List Char) : Glyph :=
  ⟨String.ofList cs, Text.width (String.ofList cs)⟩

/-- The glyphs of a text. Line feeds are not shown. -/
def glyphs (s : String) : List Glyph :=
  ((clusters s).map Glyph.ofList).filter (·.symbol != "\n")

/-- A line without the carriage return at its end. -/
def withoutReturn (line : List Char) : List Char :=
  if line.getLast? = some '\r' then line.dropLast else line

/-- The lines of some characters, after the first characters of a line, the last of which stands
first. -/
def linesFrom (before : List Char) : List Char → List String
  | [] => if before.isEmpty then [] else [String.ofList before.reverse]
  | '\n' :: cs => String.ofList (withoutReturn before.reverse) :: linesFrom [] cs
  | c :: cs => linesFrom (c :: before) cs

/-- The lines of a text, without the characters that end them. -/
def lines (s : String) : List String :=
  linesFrom [] s.toList

end Text

/-! ### Styles -/

/-- A color of the terminal. -/
inductive Color where
  | cyan
  | gray
  | darkGray
  | yellow
  | green
  | red
  deriving DecidableEq, Repr

/-- How a cell is drawn. A color that is not given is the usual one. -/
structure Style where
  foreground : Option Color := none
  background : Option Color := none
  bold : Bool := false
  reversed : Bool := false
  underlined : Bool := false
  deriving DecidableEq, Repr

namespace Style

/-- The usual style. -/
def plain : Style := {}

/-- A style with a color of its own. -/
def ink (c : Color) : Style := { foreground := some c }

/-- A style laid over another, which stays where the upper one gives nothing. -/
def onTopOf (s t : Style) : Style where
  foreground := s.foreground.or t.foreground
  background := s.background.or t.background
  bold := s.bold || t.bold
  reversed := s.reversed || t.reversed
  underlined := s.underlined || t.underlined

end Style

/-- The names of the ways in which a style sets text off. -/
def Style.emphasis (s : Style) : List String :=
  let ways := [("bold", s.bold), ("reversed", s.reversed), ("underlined", s.underlined)]
  (ways.filter (·.2)).map (·.1)

/-- What a cell shows. -/
structure Spot where
  symbol : String := " "
  style : Style := {}
  deriving DecidableEq, Repr

namespace Spot

/-- The same with a style laid over its own. -/
def restyled (s : Spot) (style : Style) : Spot :=
  { s with style := style.onTopOf s.style }

/-- Another symbol in a style that is laid over the cell's. -/
def showing (s : Spot) (symbol : String) (style : Style) : Spot :=
  ⟨symbol, style.onTopOf s.style⟩

end Spot

/-- A symbol and a style for each cell, by column and row. -/
structure Canvas where
  spot : Nat → Nat → Spot

namespace Canvas

/-- A canvas that nothing is drawn on. -/
def blank : Canvas := ⟨fun _ _ ↦ {}⟩

/-- Changes the cells of an area. -/
def change (c : Canvas) (a : Area) (f : Nat → Nat → Spot → Spot) : Canvas :=
  ⟨fun x y ↦ if a.contains x y then f x y (c.spot x y) else c.spot x y⟩

/-- Lays a style over an area. -/
def restyle (c : Canvas) (a : Area) (s : Style) : Canvas :=
  c.change a fun _ _ spot ↦ spot.restyled s

/-- Removes what was drawn in an area. -/
def clear (c : Canvas) (a : Area) : Canvas :=
  c.change a fun _ _ _ ↦ {}

/-! ### Borders -/

/-- The symbol of a border at a cell of its area, if the cell is at the edge. -/
def borderSymbol? (a : Area) (x y : Nat) : Option String :=
  let left := x == a.x
  let top := y == a.y
  let right := x + 1 == a.right
  let bottom := y + 1 == a.bottom
  if left && top then some "┌"
  else if left && bottom then some "└"
  else if right && top then some "┐"
  else if right && bottom then some "┘"
  else if top || bottom then some "─"
  else if left || right then some "│"
  else none

/-- Draws a border along the edge of an area. -/
def border (c : Canvas) (a : Area) (s : Style) : Canvas :=
  c.change a fun x y spot ↦
    match borderSymbol? a x y with
    | some symbol => spot.showing symbol s
    | none => spot

/-! ### Text -/

/-- A piece of text in one style. -/
abbrev Piece : Type := String × Style

/-- A glyph with its style, in a column. -/
structure Placed where
  column : Nat
  glyph : Text.Glyph
  style : Style

/-- The glyphs of some pieces, each with its style. -/
def styledGlyphs (pieces : List Piece) : List (Text.Glyph × Style) :=
  pieces.flatMap fun (text, style) ↦ (Text.glyphs text).map (·, style)

/-- Places glyphs from a column on, before `limit`. At the first glyph that has no room the rest is
cut off. -/
def place (column limit : Nat) : List (Text.Glyph × Style) → List Placed
  | [] => []
  | (g, s) :: rest =>
    if column + g.width ≤ limit then ⟨column, g, s⟩ :: place (column + g.width) limit rest else []

/-- The line of glyphs that stands in an area of some width. A glyph that is wider than the whole
area is left out, and so is one without width. -/
def lineOf (x width : Nat) (pieces : List Piece) : List Placed :=
  (place x (x + width) ((styledGlyphs pieces).filter fun (g, _) ↦ g.width ≤ width)).filter
    (0 < ·.glyph.width)

/-- Draws lines of text into an area, from its first line on. What has no room is cut off, and where
no text is nothing changes. -/
def paragraph (c : Canvas) (a : Area) (lines : List (List Piece)) : Canvas :=
  let placed := (lines.take a.height).map (lineOf a.x a.width)
  c.change a fun x y spot ↦
    match ((placed[y - a.y]?).getD []).find? (·.column == x) with
    | some p => spot.showing p.glyph.symbol p.style
    | none => spot

/-- The lines of a text. -/
def linesOf (text : String) : List (List Piece) :=
  (Text.lines text).map fun line ↦ [(line, Style.plain)]

/-- Writes glyphs from a column on, before `limit`, after those that were written from `start` on,
the last of which stands first. What takes no cell is added to the cell before it; at the front, all
is written into the first cell until something takes it. At the first glyph that has no room the
rest is cut off. -/
def write (start limit column : Nat) (before : List Placed) : List Text.Glyph → List Placed
  | [] => before
  | g :: rest =>
    if limit < column + g.width then before
    else
      let after :=
        match before with
        | [] => [⟨column, g, .plain⟩]
        | last :: earlier =>
          let joined : Placed := ⟨last.column, ⟨last.glyph.symbol ++ g.symbol, g.width⟩, .plain⟩
          if column = start then joined :: earlier
          else if g.width = 0 then
            if last.glyph.width ≤ 1 then
              { joined with glyph.width := last.glyph.width } :: earlier
            else ⟨column - 1, ⟨" " ++ g.symbol, 1⟩, .plain⟩ :: before
          else ⟨column, g, .plain⟩ :: before
      write start limit (column + g.width) after rest

/-- Writes a text into the first line of an area. Each glyph takes all its cells, so that a wide one
leaves nothing of what stood in its other cells. -/
def inscribe (c : Canvas) (a : Area) (text : String) : Canvas :=
  if a.isEmpty then c
  else
    let placed := write a.x a.right a.x [] (Text.glyphs text)
    c.change { a with height := 1 } fun x _ spot ↦
      match placed.find? fun p ↦ p.column ≤ x && x < p.column + max p.glyph.width 1 with
      | some p => if p.column = x then spot.showing p.glyph.symbol {} else {}
      | none => spot

/-- Writes texts into the first line of an area, one after another. Those that take no cells are
left out. -/
def label (c : Canvas) (a : Area) : List String → Canvas
  | [] => c
  | text :: rest =>
    let width := Text.width text
    if width = 0 then c.label a rest
    else
      (c.inscribe a text).label ⟨min (a.x + width) a.right, a.y, a.width - width, a.height⟩ rest

/-- Draws a border with a title on its upper edge. -/
def framed (c : Canvas) (a : Area) (s : Style) (title : String) : Canvas :=
  let texts := Text.lines title
  let width := (texts.map Text.width).foldl (· + ·) 0
  (c.border a s).label ⟨a.x + 1, a.y, min width (a.width - 2), min a.height 1⟩ texts

/-! ### Reading the screen -/

/-- The cells of a line. The cell after a wide symbol belongs to that symbol. -/
def line (c : Canvas) (width y : Nat) : List Spot :=
  (List.range width).map fun x ↦
    if 0 < x ∧ 1 < Text.width (c.spot (x - 1) y).symbol then {}
    else c.spot x y

/-- The lines of a screen of some size. -/
def lines (c : Canvas) (width height : Nat) : List (List Spot) :=
  (List.range height).map (c.line width)

/-- The text of a line, without the blanks at its end. -/
def textOf (line : List Spot) : String :=
  String.ofList (Text.dropEndWhile Text.isBlank (String.join (line.map (·.symbol))).toList)

/-- The longest runs of cells in one style: the column where each starts, its length and its style.
Runs in the usual style are left out. -/
def runs (line : List Spot) : List (Nat × Nat × Style) :=
  (line.zipIdx.splitBy fun a b ↦ a.1.style == b.1.style).filterMap fun run ↦
    match run with
    | [] => none
    | (spot, x) :: _ => if spot.style = .plain then none else some (x, run.length, spot.style)

end Canvas

end PitchDesk
