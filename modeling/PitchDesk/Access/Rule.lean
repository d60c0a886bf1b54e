import PitchDesk.Access.Permission

/-!
# Capability rules

Boolean combinations of permission checks and role checks. A `Descriptor` has one rule for each
thing that can be done in a list view, and evaluates to the `Capabilities` of the user there.

Rules are data, so that what they ask for can be looked at as well as evaluated, and they have no
negation: nothing that a user may do keeps the user from anything. The lists inside a rule are
evaluated by functions of their own beside it, so that all recursion is structural. The views
differ in their rules alone; a view without special rules has those of `Descriptor.standard`.
-/

namespace PitchDesk

/-- A condition on the user. -/
inductive Rule where
  | always
  | never
  | require (resource : Resource) (action : Action)
  | roleIn (roles : List Role)
  | any (rules : List Rule)
  | all (rules : List Rule)
  deriving Repr, Inhabited

namespace Rule

mutual

/-- Whether the user meets a condition. -/
def evaluate (o : Oracle) : Rule → Bool
  | .always => true
  | .never => false
  | .require resource action => o.permits resource.code action.code
  | .roleIn roles => o.role.any roles.contains
  | .any rules => evaluateAny o rules
  | .all rules => evaluateAll o rules

/-- Whether the user meets one of some conditions. -/
def evaluateAny (o : Oracle) : List Rule → Bool
  | [] => false
  | r :: rs => evaluate o r || evaluateAny o rs

/-- Whether the user meets every one of some conditions. -/
def evaluateAll (o : Oracle) : List Rule → Bool
  | [] => true
  | r :: rs => evaluate o r && evaluateAll o rs

end

end Rule

/-- What a user can do in one list view. -/
structure Capabilities where
  resource : Resource
  canView : Bool
  canCreate : Bool
  canUpdate : Bool
  canDelete : Bool
  canExport : Bool
  canShortlist : Bool
  canManage : Bool
  deriving DecidableEq, Repr

/-- The capabilities of a user who can do nothing. -/
def Capabilities.none (resource : Resource) : Capabilities :=
  ⟨resource, false, false, false, false, false, false, false⟩

/-- The names of the things that the user can do, in order. -/
def Capabilities.names (c : Capabilities) : List String :=
  ([("view", c.canView), ("create", c.canCreate), ("update", c.canUpdate),
    ("delete", c.canDelete), ("export", c.canExport), ("shortlist", c.canShortlist),
    ("manage", c.canManage)].filter (·.2)).map (·.1)

/-- The rules of one list view. Without a rule of its own, whoever can create, update or delete can
manage. -/
structure Descriptor where
  resource : Resource
  view : Rule
  create : Rule
  update : Rule
  delete : Rule
  exportRows : Rule
  shortlist : Rule
  manage : Option Rule

namespace Descriptor

/-- The rules of a view that needs none of its own: each thing takes the permission of that
name. -/
def standard (resource : Resource) : Descriptor where
  resource := resource
  view := .require resource .read
  create := .require resource .create
  update := .require resource .update
  delete := .require resource .delete
  exportRows := .require resource .exportRows
  shortlist := .never
  manage := .none

/-- What the user can do. -/
def evaluate (d : Descriptor) (o : Oracle) : Capabilities where
  resource := d.resource
  canView := d.view.evaluate o
  canCreate := d.create.evaluate o
  canUpdate := d.update.evaluate o
  canDelete := d.delete.evaluate o
  canExport := d.exportRows.evaluate o
  canShortlist := d.shortlist.evaluate o
  canManage :=
    match d.manage with
    | some rule => rule.evaluate o
    | none => d.create.evaluate o || d.update.evaluate o || d.delete.evaluate o

/-- The rules of each list view. Shortlisting takes a reviewer who is staff or runs events,
evaluating takes a reviewer too, accounts are for staff, and roles and menus for superadministrators
alone. -/
def ofResource (resource : Resource) : Descriptor :=
  let base := standard resource
  match resource with
  | .submissions =>
    { base with
      shortlist :=
        .all [.require .submissions .review,
          .any [.roleIn Role.staff, .require .events .update]] }
  | .evaluations =>
    { base with create := .all [.require .evaluations .create, .require .submissions .review] }
  | .users => { base with view := .all [.require .users .read, .roleIn Role.staff] }
  | .roles | .menus =>
    { base with
      view := .all [.require resource .read, .roleIn [.superadmin]]
      manage := some (.roleIn [.superadmin]) }
  | .events | .vendors | .payments => base

end Descriptor

end PitchDesk
