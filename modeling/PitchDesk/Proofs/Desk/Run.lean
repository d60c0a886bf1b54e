import PitchDesk.Proofs.Desk.Turns

/-!
# Runs of a desk

Everything that can come about in a session: it starts with a menu while no view is open, and then
turns follow each other in whatever order keys, the mouse and the outside bring them about. What
the user may do stays the same all along, whereas the outside may answer differently each time, and
answers to requests may come late, twice, or without a request.

What holds of a new desk and is kept by every move holds along every run, `Run.induction`. A run
notes what was asked of the outside and not when, so it serves where only the desk and the requests
so far matter. Where the turns themselves are spoken of, a session is a list of occasions
(`PitchDesk.Proofs.Desk.Session`).
-/

namespace PitchDesk.Desk

/-- The desks that can come about, with all that was asked of the outside on the way. -/
inductive Run (o : Oracle) : Desk → List Effect → Prop
  | start (a : Answers) (w : Workspace) (menu : Menu.Resolved) (pageSize : UInt32)
      (hw : w.view = none) :
      Run o (start o a w menu pageSize).desk (start o a w menu pageSize).effects
  | step {d : Desk} {es : List Effect} (h : Run o d es) (a : Answers) (i : Input) :
      Run o (d.step o a i).desk (es ++ (d.step o a i).effects)

variable {o : Oracle} {d : Desk} {es : List Effect} {P : Desk → List Effect → Prop}

/-- What every move keeps is kept by moves that follow each other. -/
theorem Moves.induction {a : Answers} {i : Option Input} {d' : Desk} {es' : List Effect}
    (h : Moves o a i d d' es')
    (hmove : ∀ {d d' es es'}, P d es → Move o a i d d' es' → P d' (es ++ es')) (hd : P d es) :
    P d' (es ++ es') := by
  induction h generalizing es with
  | nil d => rwa [List.append_nil]
  | cons hm _ ih =>
    rw [← List.append_assoc]
    exact ih (hmove hd hm)

/-- **What holds of a new desk and is kept by every move holds along every run.** -/
theorem Run.induction (h : Run o d es)
    (hnew : ∀ (w : Workspace) (menu : Menu.Resolved) (pageSize : UInt32), w.view = none →
      P (new w (.ofMenu menu.forest w.sidebarCollapsed) pageSize) [])
    (hmove : ∀ {a i d d' es es'}, P d es → Move o a i d d' es' → P d' (es ++ es')) :
    P d es := by
  induction h with
  | start a w menu pageSize hw =>
    exact (makes_start w menu pageSize).induction hmove (hnew w menu pageSize hw)
  | step _ a i ih => exact (makes_step _ i).induction hmove ih

end PitchDesk.Desk
