import PitchDesk.Json.Basic
import PitchDesk.Calendar

/-!
# Values on the wire

How domain values are written as JSON and read back. A record is written as an object with all its
fields. It is read from an object, where the order of members is free, unknown members are ignored
and a known one must not come twice, or from an array of its fields in order.

A type says how its values are written and how they are read, in one class, so that the form of a
record is put together from those of its fields. What an answer may leave out has a default, and an
unknown member is passed over without looking at what it means; so `Wire.fields?` keeps the values
as JSON, and each field is read when it is asked for.
-/

namespace PitchDesk

/-- A type with a JSON form. -/
class Wire (α : Type) where
  /-- The JSON form of a value. -/
  toJson : α → Json
  /-- The value with a JSON form, if it is one of this type. -/
  ofJson? : Json → Option α

namespace Wire

open Json

/-! ### Scalars -/

/-- Reads an integer between two bounds. -/
def integer? (low high : Int) : Json → Option Int
  | .number n => n.int?.filter fun i ↦ low ≤ i && i ≤ high
  | _ => none

instance : Wire Int64 where
  toJson n := Json.int n.toInt
  ofJson? v := (integer? Int64.minValue.toInt Int64.maxValue.toInt v).map Int64.ofInt

instance : Wire UInt64 where
  toJson n := Json.int n.toNat
  ofJson? v := (integer? 0 (UInt64.size - 1) v).map fun i ↦ UInt64.ofNat i.toNat

instance : Wire UInt32 where
  toJson n := Json.int n.toNat
  ofJson? v := (integer? 0 (UInt32.size - 1) v).map fun i ↦ UInt32.ofNat i.toNat

instance : Wire UInt8 where
  toJson n := Json.int n.toNat
  ofJson? v := (integer? 0 255 v).map fun i ↦ UInt8.ofNat i.toNat

instance : Wire Bool where
  toJson := .bool
  ofJson?
    | .bool b => some b
    | _ => none

instance : Wire String where
  toJson := .text
  ofJson?
    | .string s => textOf? s
    | _ => none

instance : Wire Date where
  toJson d := .text d.toText
  ofJson?
    | .string s => (textOf? s).bind Date.read?
    | _ => none

instance {α : Type} [Wire α] : Wire (Option α) where
  toJson
    | some a => toJson a
    | none => .null
  ofJson?
    | .null => some none
    | v => (ofJson? v).map some

instance {α : Type} [Wire α] : Wire (List α) where
  toJson items := .array (items.map toJson)
  ofJson?
    | .array items => items.mapM ofJson?
    | _ => none

/-! ### Choices -/

/-- Reads one of some named alternatives: its name, or an object whose only member has that name
and the value `null`. -/
def choice? {α : Type} (ofName? : String → Option α) : Json → Option α
  | .string s => (textOf? s).bind ofName?
  | .object [(s, .null)] => (textOf? s).bind ofName?
  | _ => none

/-! ### Records -/

/-- The members of a record that were given, each at most once. -/
abbrev Fields : Type := List (String × Json)

/-- Adds a member to the fields before it. Unknown members are dropped. -/
def addField? (names : List String) (fields : Fields) (member : List Piece × Json) :
    Option Fields := do
  let name ← textOf? member.1
  if name ∈ names then
    if fields.any (·.1 == name) then none else some ((name, member.2) :: fields)
  else some fields

/-- The fields of a record with the given names. -/
def fields? (names : List String) : Json → Option Fields
  | .object members => members.foldlM (addField? names) []
  | .array items => if items.length ≤ names.length then some (names.zip items) else none
  | _ => none

/-- A field that must be given. -/
def Fields.required {α : Type} [Wire α] (fields : Fields) (name : String) : Option α := do
  ofJson? (← fields.lookup name)

/-- A field that has a default. -/
def Fields.withDefault {α : Type} [Wire α] (fields : Fields) (name : String) (default : α) :
    Option α :=
  match fields.lookup name with
  | none => some default
  | some v => ofJson? v

end Wire

end PitchDesk
