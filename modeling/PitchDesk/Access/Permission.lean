import PitchDesk.Json.Wire
import PitchDesk.Resource
import PitchDesk.Role

/-!
# Permissions and sessions

A permission names a resource and an action, either of which may be the wildcard. A session holds
the permissions of the signed-in user and answers from them; `Oracle` is all that the rest of the
program knows of that.

An oracle is a question and a role, and no session: rules are evaluated for it, and statements
about rules are then for every user that there could be, not only for those that some list of
permissions makes. Wildcards are a matter of permissions alone, so an oracle need not know of them.
A session keeps its permissions in order and without repetition, whatever list they came in.
-/

namespace PitchDesk

/-- What may be done to a record. -/
inductive Action where
  | read
  | create
  | update
  | delete
  | exportRows
  | review
  deriving DecidableEq, Repr

namespace Action

/-- The name of an action in permissions. -/
def code : Action → String
  | .read => "read"
  | .create => "create"
  | .update => "update"
  | .delete => "delete"
  | .exportRows => "export"
  | .review => "review"

/-- The action with a name. -/
def ofCode? : String → Option Action
  | "read" => some .read
  | "create" => some .create
  | "update" => some .update
  | "delete" => some .delete
  | "export" => some .exportRows
  | "review" => some .review
  | _ => none

instance : Wire Action where
  toJson a := .text a.code
  ofJson? := Wire.choice? ofCode?

end Action

/-- Who asks, and what they may do. -/
structure Oracle where
  /-- Whether an action on a resource is permitted. -/
  permits : String → String → Bool
  /-- The role of the user, if it is known. -/
  role : Option Role

/-- A grant of an action on a resource. -/
structure Permission where
  resource : String
  action : String
  deriving DecidableEq, Repr

namespace Permission

/-- The name that stands for every resource or every action. -/
def wildcard : String := "*"

/-- A granted name covers a wanted one if it is the same or the wildcard. -/
def covers (granted wanted : String) : Bool :=
  granted == wildcard || granted == wanted

/-- A permission matches what it grants. -/
def grants (p : Permission) (resource action : String) : Bool :=
  covers p.resource resource && covers p.action action

/-- Permissions are ordered by resource and then by action. -/
def before (p q : Permission) : Bool :=
  decide (p.resource < q.resource) || (p.resource == q.resource && decide (p.action < q.action))

/-- Puts a permission into an ordered list, unless it is there already. -/
def insert (p : Permission) : List Permission → List Permission
  | [] => [p]
  | q :: qs =>
    if p = q then q :: qs
    else if p.before q then p :: q :: qs
    else q :: insert p qs

/-- The distinct permissions of a list, in order. -/
def ordered (ps : List Permission) : List Permission :=
  ps.foldr insert []

instance : Wire Permission where
  toJson p := .ofFields [("resource", Wire.toJson p.resource), ("action", Wire.toJson p.action)]
  ofJson? v := do
    let f ← Wire.fields? ["resource", "action"] v
    return { resource := ← f.required "resource", action := ← f.required "action" }

end Permission

/-- The user that a session belongs to. -/
structure SessionUser where
  id : Int64
  name : String
  email : String
  role : Role
  deriving DecidableEq, Repr

instance : Wire SessionUser where
  toJson u := .ofFields
    [("id", Wire.toJson u.id), ("name", Wire.toJson u.name), ("email", Wire.toJson u.email),
     ("role", Wire.toJson u.role)]
  ofJson? v := do
    let f ← Wire.fields? ["id", "name", "email", "role"] v
    return {
      id := ← f.required "id"
      name := ← f.required "name"
      email := ← f.withDefault "email" ""
      role := ← f.required "role" }

/-- What signing in gives: a token to send along, the user and the user's permissions, in order and
without repetition. -/
structure Session where
  token : String
  user : SessionUser
  permissions : List Permission
  deriving DecidableEq, Repr

namespace Session

/-- The session with the given grants. -/
def ofGrants (token : String) (user : SessionUser) (grants : List Permission) : Session :=
  ⟨token, user, Permission.ordered grants⟩

/-- A session permits what one of its permissions grants. -/
def oracle (s : Session) : Oracle where
  permits resource action := s.permissions.any (·.grants resource action)
  role := some s.user.role

end Session

end PitchDesk
