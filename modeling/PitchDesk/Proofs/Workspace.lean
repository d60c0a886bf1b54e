import PitchDesk.Workspace

/-!
# What commands leave alone

Of all commands only two change which view is open, `view_dispatch`: one opens a view, and signing
out closes it. Only one collapses the sidebar or brings it back, `sidebarCollapsed_dispatch`, and
only signing in and out change who is signed in, `user_dispatch`. These two also show a notice, as
does the command for that; one takes it away, `notice_dispatch`.

The part that has the focus afterwards is left open here, since it depends on the parts that are
shown: it is told in `PitchDesk.Proofs.Focus`. All other parts follow from one lemma on the whole
workspace, `exists_dispatch_eq`.
-/

namespace PitchDesk.Workspace

theorem fst_setFocus (w : Workspace) (focus : Focus) :
    (w.setFocus focus).1 = { w with focus := focus } := by
  unfold setFocus
  split
  · rename_i h
    subst h
    rfl
  · rfl

/-- What a command makes of a workspace, but for the part that has the focus afterwards. -/
theorem exists_dispatch_eq (w : Workspace) (c : Command) :
    ∃ focus, (w.dispatch c).1 =
      { view :=
          match c with
          | .selectView v => some v
          | .logout => none
          | _ => w.view
        focus := focus
        sidebarCollapsed :=
          match c with
          | .toggleSidebar => !w.sidebarCollapsed
          | _ => w.sidebarCollapsed
        notice :=
          match c with
          | .signedIn user => some ⟨.success, "signed in as " ++ user.name⟩
          | .showNotice notice => some notice
          | .clearNotice => none
          | .logout => some ⟨.info, "signed out"⟩
          | _ => w.notice
        user :=
          match c with
          | .signedIn user => some user
          | .logout => none
          | _ => w.user } := by
  cases c with
  | selectView v =>
    by_cases h : w.view = some v
    · exact ⟨w.focus, by simp [dispatch, ← h]⟩
    · exact ⟨.table, by simp [dispatch, h, fst_setFocus]⟩
  | toggleSidebar =>
    simp only [dispatch]
    split
    · exact ⟨_, fst_setFocus _ _⟩
    · exact ⟨_, rfl⟩
  | clearNotice =>
    simp only [dispatch]
    split
    · exact ⟨_, rfl⟩
    · rename_i h
      exact ⟨w.focus, by simp [← h]⟩
  | nextFocus => exact ⟨_, fst_setFocus _ _⟩
  | prevFocus => exact ⟨_, fst_setFocus _ _⟩
  | focusSearch => exact ⟨_, fst_setFocus _ _⟩
  | signedIn user => exact ⟨_, rfl⟩
  | showNotice notice => exact ⟨_, rfl⟩
  | logout => exact ⟨_, rfl⟩

theorem view_dispatch (w : Workspace) (c : Command) :
    (w.dispatch c).1.view =
      match c with
      | .selectView v => some v
      | .logout => none
      | _ => w.view := by
  obtain ⟨focus, h⟩ := w.exists_dispatch_eq c
  rw [h]

theorem sidebarCollapsed_dispatch (w : Workspace) (c : Command) :
    (w.dispatch c).1.sidebarCollapsed =
      match c with
      | .toggleSidebar => !w.sidebarCollapsed
      | _ => w.sidebarCollapsed := by
  obtain ⟨focus, h⟩ := w.exists_dispatch_eq c
  rw [h]

theorem notice_dispatch (w : Workspace) (c : Command) :
    (w.dispatch c).1.notice =
      match c with
      | .signedIn user => some ⟨.success, "signed in as " ++ user.name⟩
      | .showNotice notice => some notice
      | .clearNotice => none
      | .logout => some ⟨.info, "signed out"⟩
      | _ => w.notice := by
  obtain ⟨focus, h⟩ := w.exists_dispatch_eq c
  rw [h]

theorem user_dispatch (w : Workspace) (c : Command) :
    (w.dispatch c).1.user =
      match c with
      | .signedIn user => some user
      | .logout => none
      | _ => w.user := by
  obtain ⟨focus, h⟩ := w.exists_dispatch_eq c
  rw [h]

end PitchDesk.Workspace
