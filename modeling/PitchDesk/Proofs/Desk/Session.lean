import Mathlib.Data.List.Basic
import PitchDesk.Proofs.Desk.Run
import PitchDesk.Sample.Accounts
import PitchDesk.Sample.Records

/-!
# Sessions turn by turn

A session as the list of what happens in it, so that one can speak of what was done before. An
`Opening` is all that a session starts with, whatever view is open then, and an `Occasion` is what
happens in one turn together with how the outside answers then. `play` takes one turn after the
other.

What every move keeps holds at every point of a session, `Opening.induction`. What holds at some
point, but not at the beginning, came about in one turn and has held ever since, `exists_since`.

## One list of occasions

The answers of the outside stand in each occasion and are not a function of what was asked, so a
theorem over all lists of occasions is one over all services, answers that come late, twice or
unasked included. Where a property needs an outside that keeps to what it was asked, it says so by
`Kept` in `PitchDesk.Proofs.Desk.History`.

Occasions are appended at the end: `desk_play_concat` is the step of all inductions along a
session, and `exists_since` looks for the turn in which something began. The sample session at the
end is the one that all runs on fixed occasions use.
-/

namespace PitchDesk.Desk

/-- What happens in a turn, and how the outside answers then. -/
structure Occasion where
  answers : Answers
  input : Input

/-- What a session starts with, and how the outside answers then. -/
structure Opening where
  answers : Answers
  workspace : Workspace
  menu : Menu.Resolved
  pageSize : UInt32

/-- The turns of a desk on some occasions, one after the other. -/
def play (o : Oracle) (d : Desk) : List Occasion → Turn
  | [] => d.idle
  | x :: xs => (d.step o x.answers x.input).andThen (play o · xs)

/-- The turn that starts a session. -/
def Opening.start (s : Opening) (o : Oracle) : Turn :=
  Desk.start o s.answers s.workspace s.menu s.pageSize

/-- The desk of a session after some occasions. -/
def Opening.after (s : Opening) (o : Oracle) (xs : List Occasion) : Desk :=
  (play o (s.start o).desk xs).desk

variable {o : Oracle} {d : Desk} {s : Opening} {P : Desk → Prop}

/-- The turns of a list that falls into two are those of its second part after those of its first.
-/
theorem desk_play_append (o : Oracle) (d : Desk) (xs ys : List Occasion) :
    (play o d (xs ++ ys)).desk = (play o (play o d xs).desk ys).desk := by
  induction xs generalizing d with
  | nil => rfl
  | cons x xs ih => exact ih _

/-- One more occasion is one more turn on the desk that the others led to. -/
theorem desk_play_concat (o : Oracle) (d : Desk) (xs : List Occasion) (x : Occasion) :
    (play o d (xs ++ [x])).desk = ((play o d xs).desk.step o x.answers x.input).desk := by
  rw [desk_play_append]
  rfl

/-- **What holds of a new desk and is kept by every move holds at every point of a session.** -/
theorem Opening.induction (s : Opening) (xs : List Occasion)
    (hnew : ∀ (w : Workspace) (menu : Menu.Resolved) (pageSize : UInt32),
      P (new w (.ofMenu menu.forest w.sidebarCollapsed) pageSize))
    (hmove : ∀ {a i d d' es}, P d → Move o a i d d' es → P d') : P (s.after o xs) := by
  have hmoves {a : Answers} {i : Option Input} {d d' : Desk} {es : List Effect}
      (hd : P d) (hms : Moves o a i d d' es) : P d' := by
    induction hms with
    | nil => exact hd
    | cons hm _ ih => exact ih (hmove hd hm)
  induction xs using List.reverseRecOn with
  | nil => exact hmoves (hnew s.workspace s.menu s.pageSize) (makes_start _ _ _)
  | append_singleton xs x ih =>
    rw [Opening.after, desk_play_concat]
    exact hmoves ih (makes_step _ x.input)

/-- What holds at some point, but not at the beginning, came about in one turn and has held ever
since. -/
theorem exists_since {xs : List Occasion} (h : P (play o d xs).desk) (hd : ¬P d) :
    ∃ ys x zs, xs = ys ++ x :: zs ∧ ¬P (play o d ys).desk ∧
      ∀ us, us <+: zs → P (play o d (ys ++ x :: us)).desk := by
  induction xs using List.reverseRecOn with
  | nil => exact absurd h hd
  | append_singleton xs x ih =>
    by_cases hxs : P (play o d xs).desk
    · obtain ⟨ys, y, zs, rfl, hys, hsince⟩ := ih hxs
      refine ⟨ys, y, zs ++ [x], by simp, hys, fun us hus ↦ ?_⟩
      rcases List.prefix_concat_iff.1 hus with rfl | hus
      · rwa [List.append_assoc, List.cons_append] at h
      · exact hsince us hus
    · refine ⟨xs, x, [], rfl, hxs, fun us hus ↦ ?_⟩
      rwa [List.prefix_nil.1 hus]

/-- If every turn to a desk of some kind asks nothing of some kind, turns that lead to such desks
only ask nothing of that kind. -/
theorem filter_effects_play {C : Effect → Bool}
    (hstep : ∀ (d : Desk) a i, P (d.step o a i).desk → (d.step o a i).effects.filter C = [])
    {xs : List Occasion} (h : ∀ us, us <+: xs → us ≠ [] → P (play o d us).desk) :
    (play o d xs).effects.filter C = [] := by
  induction xs generalizing d with
  | nil => rfl
  | cons x xs ih =>
    show ((d.step o x.answers x.input).effects ++ (play o _ xs).effects).filter C = []
    rw [List.filter_append, hstep d _ _ (h [x] (by simp) (by simp)), List.nil_append]
    refine ih fun us hus _ ↦ ?_
    exact h (x :: us) (List.cons_prefix_cons.2 ⟨rfl, hus⟩) (List.cons_ne_nil x us)

/-! ### A sample session -/

/-- A user who may see and delete events, and nothing else. -/
def sampleOracle : Oracle :=
  (Sample.session .admin [⟨"events", "read"⟩, ⟨"events", "delete"⟩]).oracle

/-- An outside that does what it is asked for. -/
def sampleAnswers : Answers := ⟨.ok (), .ok (), .ok (), .ok (), 0, fun _ ↦ none⟩

/-- A session that starts with the events. -/
def sampleOpening : Opening where
  answers := sampleAnswers
  workspace := {}
  menu := ⟨.server, [.node (Sample.menuRecord 1 "events" "/events" none 1) []]⟩
  pageSize := 10

/-- An event comes, its menu is opened, and its second item highlighted. -/
def sampleChoice : List Occasion :=
  [.news (.loaded .events 1
      (.ok ⟨[.event ⟨7, "Gala", "Austin", Sample.firstDay, none, .opened, 0⟩], some 1, some 1⟩)),
    .key ⟨.char '.', false, false, false⟩,
    .key ⟨.down, false, false, false⟩].map (⟨sampleAnswers, ·⟩)

/-- The item is chosen, and then a page without events comes. -/
def sampleDeletion : List Occasion :=
  sampleChoice ++
    [.key ⟨.enter, false, false, false⟩,
      .news (.loaded .events 1 (.ok ⟨[], some 0, some 1⟩))].map (⟨sampleAnswers, ·⟩)

end PitchDesk.Desk
