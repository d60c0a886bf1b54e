import PitchDesk.Json.Double
import PitchDesk.Json.Wire

/-!
# Data of any shape

A JSON value that is kept as it is. Unlike what is merely skipped, every string in it must stand for
a text and every number for a finite one, and it must not nest too deep.
-/

namespace PitchDesk

namespace Json

/-- A number as it is kept, unless it is too great: an integer that fits into 64 bits stays one. -/
def Number.kept? (n : Number) : Option Number :=
  match n.int? with
  | some i =>
    if Int64.minValue.toInt ≤ i ∧ i < UInt64.size then some n
    else (Double.ofNumber? n).map (·.toNumber n.negative)
  | none => (Double.ofNumber? n).map (·.toNumber n.negative)

mutual

/-- A value with its strings and numbers made out. -/
def kept? : Json → Option Json
  | .number n => n.kept?.map .number
  | .string s => (textOf? s).map text
  | .array items => (keptItems? items).map .array
  | .object members => (keptMembers? members).map .object
  | v => some v

/-- Values with their strings and numbers made out. -/
def keptItems? : List Json → Option (List Json)
  | [] => some []
  | item :: items => do
    let item ← kept? item
    return item :: (← keptItems? items)

/-- Members with their strings and numbers made out. -/
def keptMembers? : List (List Piece × Json) → Option (List (List Piece × Json))
  | [] => some []
  | (key, value) :: members => do
    let key ← charsOf? key
    let value ← kept? value
    return (key.map .char, value) :: (← keptMembers? members)

end

end Json

/-- Data of any shape in an answer. -/
structure Data where
  value : Json

/-- How deep the data of an answer may nest. -/
def Data.maxDepth : Nat := 126

instance : Wire Data where
  toJson d := d.value
  ofJson? v := if v.depth ≤ Data.maxDepth then (Json.kept? v).map Data.mk else none

end PitchDesk
