import PitchDesk.Json.Wire
import PitchDesk.Text.Blank

/-!
# Roles

The four kinds of account. Administrators and superadministrators are staff.
-/

namespace PitchDesk

/-- What an account may be. -/
inductive Role where
  | vendor
  | client
  | admin
  | superadmin
  deriving DecidableEq, Repr

namespace Role

/-- The name of a role in requests and answers. -/
def code : Role → String
  | .vendor => "vendor"
  | .client => "client"
  | .admin => "admin"
  | .superadmin => "superadmin"

/-- The role with a code; `super_admin` is another spelling of `superadmin`. -/
def ofCode? : String → Option Role
  | "vendor" => some .vendor
  | "client" => some .client
  | "admin" => some .admin
  | "superadmin" => some .superadmin
  | "super_admin" => some .superadmin
  | _ => none

/-- Reads a role name as a person may type it: case and blanks around it do not matter. -/
def parse? (s : String) : Option Role :=
  ofCode? (Text.lowerAscii (Text.trim s))

/-- The roles that run the marketplace. -/
def staff : List Role := [.admin, .superadmin]

/-- A role is staff if it is one of those that run the marketplace. -/
def isStaff (r : Role) : Bool :=
  staff.contains r

instance : Wire Role where
  toJson r := .text r.code
  ofJson? := Wire.choice? ofCode?

end Role

end PitchDesk
