import PitchDesk.Json.Wire
import PitchDesk.Text.Blank

/-!
# Resources

What the service keeps lists of. Each resource has one list view; its code is also the name that
permissions use and the last segment of its routes and endpoints.

A route leads to a view by its last segment alone, whatever stands in front, so that the routes of
the service need not be known.
-/

namespace PitchDesk

/-- A kind of record with a list view of its own. -/
inductive Resource where
  | events
  | vendors
  | submissions
  | evaluations
  | payments
  | users
  | roles
  | menus
  deriving DecidableEq, Repr

namespace Resource

/-- The resources in the order in which they are listed. -/
def all : List Resource :=
  [.events, .vendors, .submissions, .evaluations, .payments, .users, .roles, .menus]

/-- The name of a resource in routes, endpoints and permissions. -/
def code : Resource → String
  | .events => "events"
  | .vendors => "vendors"
  | .submissions => "submissions"
  | .evaluations => "evaluations"
  | .payments => "payments"
  | .users => "users"
  | .roles => "roles"
  | .menus => "menus"

/-- The name of a resource as it is written in data. -/
def name : Resource → String
  | .events => "Events"
  | .vendors => "Vendors"
  | .submissions => "Submissions"
  | .evaluations => "Evaluations"
  | .payments => "Payments"
  | .users => "Users"
  | .roles => "Roles"
  | .menus => "Menus"

instance : Wire Resource where
  toJson r := .text r.name
  ofJson? := Wire.choice? fun s ↦ all.find? (·.name == s)

/-- The name of a resource on the screen. -/
def label : Resource → String
  | .submissions => "pitches"
  | r => r.code

/-- The resource with a code, with blanks around it or not. -/
def parse? (s : String) : Option Resource :=
  all.find? fun r ↦ r.code == Text.trim s

/-- The resource that a route leads to: the one named by its last segment, where slashes at either
end do not count. -/
def ofRoute? (path : String) : Option Resource :=
  parse? (String.ofList (Text.afterLast '/' (Text.stripWhile (· == '/') path.toList)))

end Resource

end PitchDesk
