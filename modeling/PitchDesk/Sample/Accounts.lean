import PitchDesk.Access.Permission
import PitchDesk.Record.Basic

/-!
# Sample accounts

A user for each role, sessions with given grants, and a menu as a service may send it, with a group,
children out of order, and an entry whose parent is missing.
-/

namespace PitchDesk.Sample

/-- The user with a role. -/
def user (role : Role) : SessionUser :=
  let (id, name) : Int64 × String :=
    match role with
    | .vendor => (10, "Vera Vendor")
    | .client => (20, "Cory Client")
    | .admin => (30, "Ada Admin")
    | .superadmin => (40, "Sol Root")
  ⟨id, name, role.code ++ "@vendorhub.test", role⟩

/-- A session of the user with a role. -/
def session (role : Role) (grants : List Permission) : Session :=
  .ofGrants ("token-" ++ role.code) (user role) grants

/-- A session that may do anything. -/
def rootSession (role : Role) : Session :=
  session role [⟨Permission.wildcard, Permission.wildcard⟩]

/-- An oracle that permits what is on a list, and nothing else. -/
def listOracle (role : Option Role) (allowed : List Permission) : Oracle :=
  ⟨fun resource action ↦ allowed.contains ⟨resource, action⟩, role⟩

/-- A menu record with neither display name nor icon. -/
def menuRecord (id : Int64) (name path : String) (parentId : Option Int64) (orderIndex : Int64) :
    MenuRecord :=
  ⟨some id, name, "", path, "", parentId, orderIndex⟩

/-- A menu as a service may send it. -/
def serverMenu : List MenuRecord :=
  [menuRecord 5 "payments" "/payments" (some 2) 3,
   menuRecord 1 "dashboard" "/dashboard" none 1,
   menuRecord 2 "operations" "" none 2,
   menuRecord 3 "events" "/events" (some 2) 1,
   menuRecord 4 "submissions" "/submissions" (some 2) 2,
   menuRecord 9 "vendors" "/vendors" (some 77) 4]

end PitchDesk.Sample
