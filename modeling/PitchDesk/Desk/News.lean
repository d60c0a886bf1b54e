import PitchDesk.Desk.Basic

/-!
# What comes from outside

Answers to fetches arrive in any order and at any time, and notices are sent away when their time is
over. An answer to another than the latest request of a list does not count, and neither does the
time of another than the latest notice.

The rows of the open view may change while its menu is open and while a row is selected, so after a
page has come the desk is brought in step with it. A page for a view that is not open only goes
into its list; a failure is told in a notice whichever view it is for.
-/

namespace PitchDesk

/-- What comes from outside. -/
inductive News where
  /-- The time of the notice with a number is over. -/
  | noticeOver (token : UInt64)
  /-- The answer to a request of a view's list: a page, or why there is none. -/
  | loaded (view : Resource) (seq : UInt64) (answer : Except String (Page Record))

namespace Desk

/-- Brings the desk in step with the new rows of a view. If the view is open its menu closes, and a
row that is still there is selected. -/
def settle (d : Desk) (view : Resource) : Desk :=
  if d.workspace.view = some view then
    { d.closeMenu with selectedRow := min d.selectedRow ((d.rows view).length - 1) }
  else d

/-- Takes an answer to a request of a view's list. -/
def receive (d : Desk) (view : Resource) (seq : UInt64) (answer : Except String (Page Record)) :
    Turn :=
  let (l, delivery) := (d.list view).apply seq (answer.mapError fun message ↦ ⟨message, []⟩)
  let d := d.setList view l
  match delivery with
  | .applied => (d.settle view).idle
  | .failed =>
    d.notify .error ("could not load " ++ view.label ++ ": " ++ l.error?.getD "unknown error")
  | .stale => d.idle

/-- Takes what comes from outside. -/
def hear (d : Desk) : News → Turn
  | .noticeOver token =>
    if token = d.noticeToken then (d.dispatch .clearNotice).idle else d.idle
  | .loaded view seq answer => d.receive view seq answer

/-- Takes all that comes from outside, in the order in which it comes. -/
def hearAll (d : Desk) (news : List News) : Turn :=
  news.foldl (fun t n ↦ t.andThen (·.hear n)) d.idle

end Desk

end PitchDesk
