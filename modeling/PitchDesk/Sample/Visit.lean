import PitchDesk.Desk.Mouse
import PitchDesk.Desk.News
import PitchDesk.File.Tree

/-!
# Sample visits

A desk with an outside that is prepared beforehand: it answers fetches at once with one page for
each view, or only notes them, and refuses what it is told to refuse.
-/

namespace PitchDesk.Sample

/-- An outside that was prepared beforehand. -/
structure Outside where
  /-- What is answered to a fetch of a view. -/
  pages : Resource → Except Failure (Page Record)
  /-- Whether fetches are only noted. -/
  defers : Bool
  /-- What is refused, by name. -/
  refusals : String → Option Failure
  maxUploadBytes : Nat
  files : FileTree

namespace Outside

/-- Refuses what is to be refused. -/
def verdict (o : Outside) (name : String) : Except Failure Unit :=
  match o.refusals name with
  | some e => .error e
  | none => .ok ()

/-- How this outside answers in a turn. A fetch that is answered at once can always be started. -/
def answers (o : Outside) : Answers where
  fetch := if o.defers then o.verdict "spawn" else .ok ()
  delete := o.verdict "delete"
  upload := o.verdict "upload"
  saveCollapsed := o.verdict "collapse"
  maxUploadBytes := o.maxUploadBytes
  fileSize := o.files.size?

/-- The news that an effect brings at once. -/
def newsOf? (o : Outside) : Effect → Option News
  | .fetch view request =>
    if o.defers then none
    else some (.loaded view request.seq ((o.pages view).mapError Failure.full))
  | _ => none

end Outside

/-- A desk with its outside. -/
structure Visit where
  desk : Desk
  oracle : Oracle
  outside : Outside
  /-- What has come from outside and was not heard yet. -/
  news : List News := []
  /-- What was asked of the outside, the latest last. -/
  journal : List Effect := []
  quits : Bool := false

namespace Visit

/-- Goes on after a turn. -/
def after (v : Visit) (t : Turn) : Visit :=
  { v with
    desk := t.desk
    news := v.news ++ t.effects.filterMap v.outside.newsOf?
    journal := v.journal ++ t.effects
    quits := t.quits }

/-- Hears all news. -/
def settled (v : Visit) : Visit :=
  let t := v.desk.hearAll v.news
  { v with desk := t.desk, news := [], journal := v.journal ++ t.effects }

/-- Presses a key. -/
def key (v : Visit) (k : Key) : Visit :=
  v.after (v.desk.key v.oracle v.outside.answers k)

/-- Uses the mouse. -/
def mouse (v : Visit) (m : MouseAction) : Visit :=
  v.after (v.desk.mouse v.oracle v.outside.answers m)

/-- Something comes from outside. -/
def brings (v : Visit) (n : News) : Visit :=
  { v with news := v.news ++ [n] }

end Visit

end PitchDesk.Sample
