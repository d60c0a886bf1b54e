import PitchDesk.Json.Wire
import PitchDesk.Record.Basic

/-!
# Records on the wire

The JSON forms of the records: the names of their fields, in order, and the values of the fields
that an answer may leave out.

Fields that an answer may leave out have a default here and are always written. The names and their
order are given once for writing and once for reading, and that both agree is shown where records
are read back.
-/

namespace PitchDesk

open Wire (choice? fields?)

instance : Wire EventStatus where
  toJson s := .text s.code
  ofJson? := choice? fun
    | "draft" => some .draft
    | "open" => some .opened
    | "closed" => some .closed
    | _ => none

instance : Wire SubmissionStatus where
  toJson s := .text s.code
  ofJson? := choice? fun
    | "pending" => some .pending
    | "shortlisted" => some .shortlisted
    | "winner" => some .winner
    | "rejected" => some .rejected
    | _ => none

instance : Wire PaymentStatus where
  toJson s := .text s.code
  ofJson? := choice? fun
    | "pending" => some .pending
    | "paid" => some .paid
    | "failed" => some .failed
    | _ => none

instance : Wire Event where
  toJson e := .ofFields
    [("id", Wire.toJson e.id), ("title", Wire.toJson e.title),
     ("location", Wire.toJson e.location), ("starts_on", Wire.toJson e.startsOn),
     ("ends_on", Wire.toJson e.endsOn), ("status", Wire.toJson e.status),
     ("submission_count", Wire.toJson e.submissionCount)]
  ofJson? v := do
    let f ← fields?
      ["id", "title", "location", "starts_on", "ends_on", "status", "submission_count"] v
    return {
      id := ← f.required "id"
      title := ← f.required "title"
      location := ← f.withDefault "location" ""
      startsOn := ← f.required "starts_on"
      endsOn := ← f.withDefault "ends_on" none
      status := ← f.required "status"
      submissionCount := ← f.withDefault "submission_count" 0 }

instance : Wire Vendor where
  toJson r := .ofFields
    [("id", Wire.toJson r.id), ("company_name", Wire.toJson r.companyName),
     ("contact_name", Wire.toJson r.contactName), ("email", Wire.toJson r.email),
     ("phone", Wire.toJson r.phone), ("category", Wire.toJson r.category),
     ("verified", Wire.toJson r.verified)]
  ofJson? v := do
    let f ← fields?
      ["id", "company_name", "contact_name", "email", "phone", "category", "verified"] v
    return {
      id := ← f.required "id"
      companyName := ← f.required "company_name"
      contactName := ← f.withDefault "contact_name" ""
      email := ← f.withDefault "email" ""
      phone := ← f.withDefault "phone" ""
      category := ← f.withDefault "category" ""
      verified := ← f.withDefault "verified" false }

instance : Wire Submission where
  toJson r := .ofFields
    [("id", Wire.toJson r.id), ("event_id", Wire.toJson r.eventId),
     ("event_title", Wire.toJson r.eventTitle), ("vendor_id", Wire.toJson r.vendorId),
     ("vendor_name", Wire.toJson r.vendorName), ("pitch_title", Wire.toJson r.pitchTitle),
     ("status", Wire.toJson r.status), ("submitted_on", Wire.toJson r.submittedOn)]
  ofJson? v := do
    let f ← fields?
      ["id", "event_id", "event_title", "vendor_id", "vendor_name", "pitch_title", "status",
       "submitted_on"] v
    return {
      id := ← f.required "id"
      eventId := ← f.required "event_id"
      eventTitle := ← f.withDefault "event_title" ""
      vendorId := ← f.required "vendor_id"
      vendorName := ← f.withDefault "vendor_name" ""
      pitchTitle := ← f.required "pitch_title"
      status := ← f.required "status"
      submittedOn := ← f.required "submitted_on" }

instance : Wire Evaluation where
  toJson r := .ofFields
    [("id", Wire.toJson r.id), ("submission_id", Wire.toJson r.submissionId),
     ("pitch_title", Wire.toJson r.pitchTitle), ("evaluator_name", Wire.toJson r.evaluatorName),
     ("score", Wire.toJson r.score), ("comment", Wire.toJson r.comment)]
  ofJson? v := do
    let f ← fields?
      ["id", "submission_id", "pitch_title", "evaluator_name", "score", "comment"] v
    return {
      id := ← f.required "id"
      submissionId := ← f.required "submission_id"
      pitchTitle := ← f.withDefault "pitch_title" ""
      evaluatorName := ← f.withDefault "evaluator_name" ""
      score := ← f.required "score"
      comment := ← f.withDefault "comment" "" }

instance : Wire Payment where
  toJson r := .ofFields
    [("id", Wire.toJson r.id), ("vendor_name", Wire.toJson r.vendorName),
     ("event_title", Wire.toJson r.eventTitle), ("amount_cents", Wire.toJson r.amountCents),
     ("status", Wire.toJson r.status), ("paid_on", Wire.toJson r.paidOn)]
  ofJson? v := do
    let f ← fields?
      ["id", "vendor_name", "event_title", "amount_cents", "status", "paid_on"] v
    return {
      id := ← f.required "id"
      vendorName := ← f.withDefault "vendor_name" ""
      eventTitle := ← f.withDefault "event_title" ""
      amountCents := ← f.required "amount_cents"
      status := ← f.required "status"
      paidOn := ← f.withDefault "paid_on" none }

instance : Wire User where
  toJson r := .ofFields
    [("id", Wire.toJson r.id), ("name", Wire.toJson r.name), ("email", Wire.toJson r.email),
     ("role", Wire.toJson r.role), ("active", Wire.toJson r.active)]
  ofJson? v := do
    let f ← fields? ["id", "name", "email", "role", "active"] v
    return {
      id := ← f.required "id"
      name := ← f.required "name"
      email := ← f.required "email"
      role := ← f.required "role"
      active := ← f.withDefault "active" true }

instance : Wire RoleRecord where
  toJson r := .ofFields
    [("id", Wire.toJson r.id), ("name", Wire.toJson r.name),
     ("description", Wire.toJson r.description),
     ("permission_count", Wire.toJson r.permissionCount)]
  ofJson? v := do
    let f ← fields? ["id", "name", "description", "permission_count"] v
    return {
      id := ← f.required "id"
      name := ← f.required "name"
      description := ← f.withDefault "description" ""
      permissionCount := ← f.withDefault "permission_count" 0 }

instance : Wire MenuRecord where
  toJson r := .ofFields
    [("id", Wire.toJson r.id), ("name", Wire.toJson r.name),
     ("display_name", Wire.toJson r.displayName), ("path", Wire.toJson r.path),
     ("icon", Wire.toJson r.icon), ("parent_id", Wire.toJson r.parentId),
     ("order_index", Wire.toJson r.orderIndex)]
  ofJson? v := do
    let f ← fields? ["id", "name", "display_name", "path", "icon", "parent_id", "order_index"] v
    return {
      id := ← f.withDefault "id" none
      name := ← f.required "name"
      displayName := ← f.withDefault "display_name" ""
      path := ← f.withDefault "path" ""
      icon := ← f.withDefault "icon" ""
      parentId := ← f.withDefault "parent_id" none
      orderIndex := ← f.withDefault "order_index" 0 }

namespace Record

/-- The fields of a row, whatever its kind. -/
def toJson : Record → Json
  | .event row => Wire.toJson row
  | .vendor row => Wire.toJson row
  | .submission row => Wire.toJson row
  | .evaluation row => Wire.toJson row
  | .payment row => Wire.toJson row
  | .user row => Wire.toJson row
  | .role row => Wire.toJson row
  | .menu row => Wire.toJson row

/-- Reads a row of a list view. -/
def ofJson? (resource : Resource) (v : Json) : Option Record :=
  match resource with
  | .events => (Wire.ofJson? v).map .event
  | .vendors => (Wire.ofJson? v).map .vendor
  | .submissions => (Wire.ofJson? v).map .submission
  | .evaluations => (Wire.ofJson? v).map .evaluation
  | .payments => (Wire.ofJson? v).map .payment
  | .users => (Wire.ofJson? v).map .user
  | .roles => (Wire.ofJson? v).map .role
  | .menus => (Wire.ofJson? v).map .menu

end Record

end PitchDesk
