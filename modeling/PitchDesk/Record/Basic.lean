import PitchDesk.Calendar
import PitchDesk.Resource
import PitchDesk.Role
import PitchDesk.Text.Blank

/-!
# Records

The rows of the list views: events that vendors pitch for, the vendors themselves, their
submissions and what becomes of them, and the accounts, roles and menus of the service.

Each kind of row is a record with the fields that the screen shows or that are sent. `Record` is
one of any kind; the list views work with it, so that one desk serves all views, and
`Record.resource` says which view a record belongs to. Ids are signed words, as the service has
them. Only the entries of a menu may be without one.
-/

namespace PitchDesk

/-! ### States of a record -/

/-- Whether vendors may pitch for an event. -/
inductive EventStatus where
  | draft
  | opened
  | closed
  deriving DecidableEq, Repr

/-- The name of a status. -/
def EventStatus.code : EventStatus → String
  | .draft => "draft"
  | .opened => "open"
  | .closed => "closed"

/-- How far a submission has come. -/
inductive SubmissionStatus where
  | pending
  | shortlisted
  | winner
  | rejected
  deriving DecidableEq, Repr

/-- The name of a status. -/
def SubmissionStatus.code : SubmissionStatus → String
  | .pending => "pending"
  | .shortlisted => "shortlisted"
  | .winner => "winner"
  | .rejected => "rejected"

/-- A submission that has won or was rejected stays so. -/
def SubmissionStatus.isFinal : SubmissionStatus → Bool
  | .winner | .rejected => true
  | _ => false

/-- What became of a payment. -/
inductive PaymentStatus where
  | pending
  | paid
  | failed
  deriving DecidableEq, Repr

/-- The name of a status. -/
def PaymentStatus.code : PaymentStatus → String
  | .pending => "pending"
  | .paid => "paid"
  | .failed => "failed"

/-! ### The records -/

/-- An event that vendors pitch for. -/
structure Event where
  id : Int64
  title : String
  location : String
  startsOn : Date
  endsOn : Option Date
  status : EventStatus
  submissionCount : Int64
  deriving DecidableEq, Repr

/-- A company that pitches. -/
structure Vendor where
  id : Int64
  companyName : String
  contactName : String
  email : String
  phone : String
  category : String
  verified : Bool
  deriving DecidableEq, Repr

/-- A pitch of a vendor for an event. -/
structure Submission where
  id : Int64
  eventId : Int64
  eventTitle : String
  vendorId : Int64
  vendorName : String
  pitchTitle : String
  status : SubmissionStatus
  submittedOn : Date
  deriving DecidableEq, Repr

/-- What an evaluator thinks of a submission. -/
structure Evaluation where
  id : Int64
  submissionId : Int64
  pitchTitle : String
  evaluatorName : String
  score : UInt8
  comment : String
  deriving DecidableEq, Repr

/-- A payment to a vendor for an event. -/
structure Payment where
  id : Int64
  vendorName : String
  eventTitle : String
  amountCents : Int64
  status : PaymentStatus
  paidOn : Option Date
  deriving DecidableEq, Repr

/-- An account as it is listed. -/
structure User where
  id : Int64
  name : String
  email : String
  role : Role
  active : Bool
  deriving DecidableEq, Repr

/-- A role as it is listed. -/
structure RoleRecord where
  id : Int64
  name : String
  description : String
  permissionCount : Int64
  deriving DecidableEq, Repr

/-- An entry of the menu as the service sends it. The parent is named by its id, which may belong
to no record. -/
structure MenuRecord where
  id : Option Int64
  name : String
  displayName : String
  path : String
  icon : String
  parentId : Option Int64
  orderIndex : Int64
  deriving DecidableEq, Repr

/-- The text that names a menu entry to people: its display name, unless that is blank. -/
def MenuRecord.title (m : MenuRecord) : String :=
  if Text.isBlankText m.displayName then m.name else m.displayName

/-- A row of any list view. -/
inductive Record where
  | event (row : Event)
  | vendor (row : Vendor)
  | submission (row : Submission)
  | evaluation (row : Evaluation)
  | payment (row : Payment)
  | user (row : User)
  | role (row : RoleRecord)
  | menu (row : MenuRecord)
  deriving DecidableEq, Repr

namespace Record

/-- The list view that a row belongs to. -/
def resource : Record → Resource
  | .event _ => .events
  | .vendor _ => .vendors
  | .submission _ => .submissions
  | .evaluation _ => .evaluations
  | .payment _ => .payments
  | .user _ => .users
  | .role _ => .roles
  | .menu _ => .menus

/-- The number under which the service knows a row. -/
def id? : Record → Option Int64
  | .event row => some row.id
  | .vendor row => some row.id
  | .submission row => some row.id
  | .evaluation row => some row.id
  | .payment row => some row.id
  | .user row => some row.id
  | .role row => some row.id
  | .menu row => row.id

/-- The text that names a row to people. -/
def title : Record → String
  | .event row => row.title
  | .vendor row => row.companyName
  | .submission row => row.pitchTitle
  | .evaluation row => "evaluation of " ++ row.pitchTitle
  | .payment row => "payment to " ++ row.vendorName
  | .user row => row.name
  | .role row => row.name
  | .menu row => row.title

end Record

end PitchDesk
