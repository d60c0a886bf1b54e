import PitchDesk.Calendar
import PitchDesk.Text.Decimal

/-!
# Cells

What stands in one cell of a table, and its text. Amounts are in cents; they are written with a
dollar sign, groups of three digits and two digits after the point.

Dates and amounts may be missing and are empty then, so that a column of them has cells of one
kind. The colour of a badge is chosen with its label by whoever makes the cell.
-/

namespace PitchDesk

/-- How a cell is coloured. -/
inductive Tone where
  | neutral
  | positive
  | warning
  | negative
  deriving DecidableEq, Repr

namespace Money

/-- The digits of a number in groups of three from the right, with a comma after each group but the
last. -/
def grouped : List Char → List Char
  | [] => []
  | d :: ds =>
    if ds.length % 3 = 0 ∧ ds ≠ [] then d :: ',' :: grouped ds else d :: grouped ds

/-- An amount of cents as dollars. -/
def toText (cents : Int64) : String :=
  let amount := cents.toInt.natAbs
  (if cents.toInt < 0 then "-" else "") ++ "$" ++
    String.ofList (grouped (toString (amount / 100)).toList) ++ "." ++ Text.padded 2 (amount % 100)

end Money

/-- The value of one cell. -/
inductive Cell where
  | empty
  | text (value : String)
  | integer (value : Int64)
  | date (value : Option Date)
  | money (cents : Option Int64)
  | flag (value : Bool)
  | badge (label : String) (tone : Tone)
  deriving DecidableEq, Repr

namespace Cell

/-- The text of a cell. -/
def display : Cell → String
  | .empty => ""
  | .text value => value
  | .integer value => toString value.toInt
  | .date (some d) => d.toText
  | .date none => ""
  | .money (some cents) => Money.toText cents
  | .money none => ""
  | .flag true => "yes"
  | .flag false => "no"
  | .badge label _ => label

/-- The colour of a cell. Only badges have one of their own. -/
def tone : Cell → Tone
  | .badge _ tone => tone
  | _ => .neutral

end Cell

end PitchDesk
