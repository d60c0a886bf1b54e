import PitchDesk.Json.Data
import PitchDesk.Json.Reader
import PitchDesk.Text.Blank

/-!
# Envelopes

Every answer of the service is wrapped: whether the request was carried out, the data, a message,
and the totals of a list.

The fields are read in their order, and the data comes before anybody looks at the status, so that
an envelope with data of another type is none. A message that is blank counts as none, and a
refusal without a message is given one, so that it is never told without words.
-/

namespace PitchDesk

/-- An answer of the service with data of some type. -/
structure Envelope (α : Type) where
  status : Bool
  data : Option α
  message : Option String
  totalData : Option UInt64
  totalPages : Option UInt32
  deriving DecidableEq, Repr

namespace Envelope

instance {α : Type} [Wire α] : Wire (Envelope α) where
  toJson e := .ofFields
    [("status", Wire.toJson e.status), ("data", Wire.toJson e.data),
     ("message", Wire.toJson e.message), ("total_data", Wire.toJson e.totalData),
     ("total_pages", Wire.toJson e.totalPages)]
  ofJson? v := do
    let f ← Wire.fields? ["status", "data", "message", "total_data", "total_pages"] v
    return {
      status := ← f.required "status"
      data := ← f.withDefault "data" none
      message := ← f.withDefault "message" none
      totalData := ← f.withDefault "total_data" none
      totalPages := ← f.withDefault "total_pages" none }

variable {α : Type}

/-- Reads the envelope that a text holds. -/
def read? [Wire α] (text : String) : Option (Envelope α) :=
  (Json.read? text).bind Wire.ofJson?

/-- The message that an envelope has, unless it is blank. -/
def message? (e : Envelope α) : Option String :=
  e.message.filter fun m ↦ !Text.isBlankText m

/-- The message of an envelope that tells of a refusal. -/
def rejection (e : Envelope α) : String :=
  e.message?.getD "request was rejected"

end Envelope

end PitchDesk
