import PitchDesk.Record.Basic
import PitchDesk.Table.Spec

/-!
# The tables of the list views

The named fields of each kind of record, and the columns of each list view.

A record of any kind hands every field on to the row that it holds. It has no method of its own for
what identifies it, so the default applies to it whatever its row would say.
-/

namespace PitchDesk

/-! ### Fields of records -/

instance : TableRow Event where
  field? row
    | "id" => some (.integer row.id)
    | "title" => some (.text row.title)
    | "location" => some (.text row.location)
    | "starts_on" => some (.date row.startsOn)
    | "ends_on" => some (.date row.endsOn)
    | "status" => some (.text row.status.code)
    | "submission_count" => some (.integer row.submissionCount)
    | _ => none

instance : TableRow Vendor where
  field? row
    | "id" => some (.integer row.id)
    | "company_name" => some (.text row.companyName)
    | "contact_name" => some (.text row.contactName)
    | "email" => some (.text row.email)
    | "phone" => some (.text row.phone)
    | "category" => some (.text row.category)
    | "verified" => some (.flag row.verified)
    | _ => none

instance : TableRow Submission where
  field? row
    | "id" => some (.integer row.id)
    | "event_title" => some (.text row.eventTitle)
    | "vendor_name" => some (.text row.vendorName)
    | "pitch_title" => some (.text row.pitchTitle)
    | "status" => some (.text row.status.code)
    | "submitted_on" => some (.date row.submittedOn)
    | _ => none

instance : TableRow Evaluation where
  field? row
    | "id" => some (.integer row.id)
    | "pitch_title" => some (.text row.pitchTitle)
    | "evaluator_name" => some (.text row.evaluatorName)
    | "score" => some (.integer (Int64.ofNat row.score.toNat))
    | "comment" => some (.text row.comment)
    | _ => none

instance : TableRow Payment where
  field? row
    | "id" => some (.integer row.id)
    | "vendor_name" => some (.text row.vendorName)
    | "event_title" => some (.text row.eventTitle)
    | "amount" => some (.money row.amountCents)
    | "status" => some (.text row.status.code)
    | "paid_on" => some (.date row.paidOn)
    | _ => none

instance : TableRow User where
  field? row
    | "id" => some (.integer row.id)
    | "name" => some (.text row.name)
    | "email" => some (.text row.email)
    | "role" => some (.text row.role.code)
    | "active" => some (.flag row.active)
    | _ => none

instance : TableRow RoleRecord where
  field? row
    | "id" => some (.integer row.id)
    | "name" => some (.text row.name)
    | "description" => some (.text row.description)
    | "permission_count" => some (.integer row.permissionCount)
    | _ => none

/-- The cell of an id that may be missing. -/
def Cell.ofId : Option Int64 → Cell
  | some id => .integer id
  | none => .empty

/-- A menu entry is identified by its id, or by its name if it has none. -/
instance : TableRow MenuRecord where
  field? row
    | "id" => some (.ofId row.id)
    | "name" => some (.text row.name)
    | "title" => some (.text row.title)
    | "path" => some (.text row.path)
    | "parent_id" => some (.ofId row.parentId)
    | "order_index" => some (.integer row.orderIndex)
    | _ => none
  rowKey row _ :=
    match row.id with
    | some id => toString id.toInt
    | none => row.name

/-- A row of a list view has the fields of its kind, and is identified by the key field. -/
instance : TableRow Record where
  field?
    | .event row => TableRow.field? row
    | .vendor row => TableRow.field? row
    | .submission row => TableRow.field? row
    | .evaluation row => TableRow.field? row
    | .payment row => TableRow.field? row
    | .user row => TableRow.field? row
    | .role row => TableRow.field? row
    | .menu row => TableRow.field? row

/-! ### Derived cells -/

/-- The days of an event, or its only day. -/
def Event.dates (e : Event) : Cell :=
  match e.endsOn with
  | some last => if last = e.startsOn then .date e.startsOn
    else .text (e.startsOn.toText ++ " to " ++ last.toText)
  | none => .date e.startsOn

/-- The status of an event. -/
def Event.statusBadge (e : Event) : Cell :=
  .badge e.status.code <|
    match e.status with
    | .draft => .neutral
    | .opened => .positive
    | .closed => .warning

/-- The status of a submission. -/
def Submission.statusBadge (s : Submission) : Cell :=
  .badge s.status.code <|
    match s.status with
    | .pending => .neutral
    | .shortlisted => .warning
    | .winner => .positive
    | .rejected => .negative

/-- A score out of ten; more than ten counts as ten. -/
def Evaluation.scoreText (e : Evaluation) : Cell :=
  .text (toString (min e.score.toNat 10) ++ "/10")

/-- The status of a payment. -/
def Payment.statusBadge (p : Payment) : Cell :=
  .badge p.status.code <|
    match p.status with
    | .pending => .warning
    | .paid => .positive
    | .failed => .negative

/-- Whether an account is in use. -/
def User.statusBadge (u : User) : Cell :=
  if u.active then .badge "active" .positive else .badge "inactive" .negative

/-- A derived cell of events; rows of other kinds leave it empty. -/
def Record.ofEvent (cell : Event → Cell) : Record → Cell
  | .event row => cell row
  | _ => .empty

/-- A derived cell of submissions; rows of other kinds leave it empty. -/
def Record.ofSubmission (cell : Submission → Cell) : Record → Cell
  | .submission row => cell row
  | _ => .empty

/-- A derived cell of evaluations; rows of other kinds leave it empty. -/
def Record.ofEvaluation (cell : Evaluation → Cell) : Record → Cell
  | .evaluation row => cell row
  | _ => .empty

/-- A derived cell of payments; rows of other kinds leave it empty. -/
def Record.ofPayment (cell : Payment → Cell) : Record → Cell
  | .payment row => cell row
  | _ => .empty

/-- A derived cell of accounts; rows of other kinds leave it empty. -/
def Record.ofUser (cell : User → Cell) : Record → Cell
  | .user row => cell row
  | _ => .empty

/-! ### Columns -/

namespace Resource

/-- The columns of a list view. -/
def columns : Resource → List (Column Record)
  | .events =>
    [⟨"Title", .field "title"⟩, ⟨"Location", .field "location"⟩,
     ⟨"Dates", .derived (Record.ofEvent Event.dates)⟩,
     ⟨"Status", .derived (Record.ofEvent Event.statusBadge)⟩,
     ⟨"Pitches", .field "submission_count"⟩]
  | .vendors =>
    [⟨"Company", .field "company_name"⟩, ⟨"Contact", .field "contact_name"⟩,
     ⟨"Email", .field "email"⟩, ⟨"Category", .field "category"⟩, ⟨"Verified", .field "verified"⟩]
  | .submissions =>
    [⟨"Pitch", .field "pitch_title"⟩, ⟨"Event", .field "event_title"⟩,
     ⟨"Vendor", .field "vendor_name"⟩,
     ⟨"Status", .derived (Record.ofSubmission Submission.statusBadge)⟩,
     ⟨"Submitted", .field "submitted_on"⟩]
  | .evaluations =>
    [⟨"Pitch", .field "pitch_title"⟩, ⟨"Evaluator", .field "evaluator_name"⟩,
     ⟨"Score", .derived (Record.ofEvaluation Evaluation.scoreText)⟩,
     ⟨"Comment", .field "comment"⟩]
  | .payments =>
    [⟨"Vendor", .field "vendor_name"⟩, ⟨"Event", .field "event_title"⟩,
     ⟨"Amount", .field "amount"⟩,
     ⟨"Status", .derived (Record.ofPayment Payment.statusBadge)⟩, ⟨"Paid", .field "paid_on"⟩]
  | .users =>
    [⟨"Name", .field "name"⟩, ⟨"Email", .field "email"⟩, ⟨"Role", .field "role"⟩,
     ⟨"Status", .derived (Record.ofUser User.statusBadge)⟩]
  | .roles =>
    [⟨"Name", .field "name"⟩, ⟨"Description", .field "description"⟩,
     ⟨"Permissions", .field "permission_count"⟩]
  | .menus =>
    [⟨"Code", .field "name"⟩, ⟨"Title", .field "title"⟩, ⟨"Path", .field "path"⟩,
     ⟨"Parent", .field "parent_id"⟩, ⟨"Order", .field "order_index"⟩]

/-- Whether a click on a row of a list view opens it. -/
def opensRows : Resource → Bool
  | .events | .submissions | .vendors => true
  | _ => false

/-- The table of a list view. -/
def table (r : Resource) : TableSpec Record where
  columns := r.columns
  keyField := "id"
  emptyMessage := "no " ++ r.label ++ " found"
  rowClick := r.opensRows

end Resource

end PitchDesk
