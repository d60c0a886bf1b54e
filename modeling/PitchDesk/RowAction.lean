import PitchDesk.Access.Rule
import PitchDesk.ActionMenu.Basic
import PitchDesk.Record.Basic

/-!
# What can be done to a row

The menu of a row holds what the capabilities of the user allow for a row of its kind and status.

The items are written down with a condition on each, in the order in which they are shown. A
submission can be shortlisted while it is undecided and marked as the winner when it is
shortlisted, so no menu has both items. Of the actions only those that the terminal can carry out
do something; the others are told of in a notice.
-/

namespace PitchDesk

/-- Something that can be done to a row. -/
inductive RowAction where
  | view
  | edit
  | uploadDocument
  | shortlist
  | markWinner
  | exportRow
  | delete
  deriving DecidableEq, Repr

namespace Record

/-- Whether a row is a submission. -/
def isSubmission : Record → Bool
  | .submission _ => true
  | _ => false

/-- Whether a row is a submission that may still be shortlisted. -/
def isOpenPitch : Record → Bool
  | .submission s => !s.status.isFinal && s.status != .shortlisted
  | _ => false

/-- Whether a row is a submission that is shortlisted. -/
def isShortlisted : Record → Bool
  | .submission s => s.status == .shortlisted
  | _ => false

/-- The menu of a row. -/
def actions (caps : Capabilities) (row : Record) : ActionMenu RowAction :=
  .ofItems
    [{ label := "View", icon := ">", action := .view, hidden := !caps.canView },
     { label := "Edit", icon := "~", action := .edit, hidden := !caps.canUpdate },
     { label := "Upload document", icon := "^", action := .uploadDocument,
       hidden := !(row.isSubmission && caps.canUpdate) },
     { label := "Shortlist", icon := "*", action := .shortlist,
       hidden := !(row.isOpenPitch && caps.canShortlist) },
     { label := "Mark winner", icon := "!", action := .markWinner,
       hidden := !(row.isShortlisted && caps.canShortlist) },
     { label := "Export", icon := "=", action := .exportRow, hidden := !caps.canExport },
     { label := "Delete", icon := "x", action := .delete, variant := .danger,
       hidden := !caps.canDelete }]

end Record

end PitchDesk
