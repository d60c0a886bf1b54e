import PitchDesk.Record.Basic

/-!
# Preset menus

The menus that the program shows when the service has none to offer, one for each role. A
superadministrator sees what an administrator sees and two entries more.

They are written as records and go through the same hierarchy as those of the service, so what is
shown does not depend on where a menu is from.
-/

namespace PitchDesk

namespace Menu

/-- A menu record all of whose fields are given. -/
def preset (id : Int64) (name displayName path icon : String) (parentId : Option Int64)
    (orderIndex : Int64) : MenuRecord :=
  ⟨some id, name, displayName, path, icon, parentId, orderIndex⟩

/-- The menu of a vendor. -/
def vendorPreset : List MenuRecord :=
  [preset 1 "dashboard" "Dashboard" "/dashboard" "home" none 0,
   preset 2 "events" "Open Events" "/events" "calendar" none 1,
   preset 3 "submissions" "My Pitches" "/submissions" "send" none 2,
   preset 4 "payments" "Payments" "/payments" "wallet" none 3]

/-- The menu of a client. -/
def clientPreset : List MenuRecord :=
  [preset 1 "dashboard" "Dashboard" "/dashboard" "home" none 0,
   preset 2 "events" "My Events" "/events" "calendar" none 1,
   preset 3 "submissions" "Pitches" "/submissions" "inbox" none 2,
   preset 4 "evaluations" "Evaluations" "/evaluations" "star" none 3,
   preset 5 "vendors" "Vendors" "/vendors" "briefcase" none 4]

/-- The menu of an administrator. -/
def adminPreset : List MenuRecord :=
  [preset 1 "dashboard" "Dashboard" "/dashboard" "home" none 0,
   preset 2 "management" "Management" "" "layers" none 1,
   preset 3 "events" "Events" "/events" "calendar" (some 2) 0,
   preset 4 "vendors" "Vendors" "/vendors" "briefcase" (some 2) 1,
   preset 5 "submissions" "Pitches" "/submissions" "inbox" (some 2) 2,
   preset 6 "evaluations" "Evaluations" "/evaluations" "star" (some 2) 3,
   preset 7 "payments" "Payments" "/payments" "wallet" (some 2) 4,
   preset 8 "administration" "Administration" "" "shield" none 2,
   preset 9 "users" "Users" "/admin/users" "users" (some 8) 0]

/-- What the menu of a superadministrator has beyond that of an administrator. -/
def superadminExtra : List MenuRecord :=
  [preset 10 "roles" "Roles" "/admin/roles" "key" (some 8) 1,
   preset 11 "menus" "Menus" "/admin/menus" "list" (some 8) 2]

/-- The preset menu of a role. -/
def presetFor : Role → List MenuRecord
  | .vendor => vendorPreset
  | .client => clientPreset
  | .admin => adminPreset
  | .superadmin => adminPreset ++ superadminExtra

end Menu

end PitchDesk
