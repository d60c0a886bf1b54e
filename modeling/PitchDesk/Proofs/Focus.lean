import Mathlib.Data.List.Induction
import PitchDesk.Proofs.Workspace

/-!
# The focus and the collapsed sidebar

The focus goes around the parts that are shown, and a sidebar that collapses gives it away. Still
keys may go to a sidebar that nobody sees, `FocusHidden`: whoever prefers the sidebar collapsed
starts with the focus on it, and signing out puts the focus back on it, whether it is collapsed or
not.

`focusHidden_after_iff` says that there is no other way: the focus is hidden exactly if the sidebar
is collapsed and nothing has moved the focus since the start, or since the user signed out. That a
view which is opened moves the focus rests on there being no open view then, since a view that is
open already is not opened again.

The condition reads the list of commands and not the workspace, so it can be told from what the
user did alone; `FocusUnmoved` is that part of it. A command that moves the focus ends the time in
which it is hidden, even if it moves it to where it would be hidden on a collapsed sidebar:
`focusAfter_ne_sidebar` says that going around never ends there.
-/

namespace PitchDesk.Workspace

/-- Keys go to the sidebar while it is collapsed. -/
def FocusHidden (w : Workspace) : Prop :=
  w.focus = .sidebar ∧ w.sidebarCollapsed = true

/-- Whether a command puts the focus on a part of the screen that is shown. -/
def Command.movesFocus : Command → Bool
  | .selectView _ | .nextFocus | .prevFocus | .focusSearch | .toggleSidebar => true
  | .signedIn _ | .showNotice _ | .clearNotice | .logout => false

/-- A workspace after some commands. -/
def after (w : Workspace) (cs : List Command) : Workspace :=
  cs.foldl (fun w c ↦ (w.dispatch c).1) w

/-- Nothing has moved the focus since the start, or since the user signed out at some point. -/
def FocusUnmoved (cs : List Command) : Prop :=
  ∃ before later, cs = before ++ later ∧ (before = [] ∨ before.getLast? = some .logout) ∧
    ∀ c ∈ later, c.movesFocus = false

variable {w : Workspace} {c : Command} {cs : List Command}

theorem after_concat (w : Workspace) (cs : List Command) (c : Command) :
    w.after (cs ++ [c]) = ((w.after cs).dispatch c).1 := by
  rw [after, List.foldl_append]
  rfl

/-! ### What commands do to the focus -/

/-- The focus does not go around to a collapsed sidebar. -/
theorem focusAfter_ne_sidebar (h : w.sidebarCollapsed = true) (steps : Int) :
    w.focusAfter steps ≠ .sidebar := by
  have horder : w.focusOrder = [.search, .table] := if_pos h
  unfold focusAfter
  rw [horder]
  dsimp only
  generalize ((_ : Int) % _).toNat = place
  match place with
  | 0 => exact nofun
  | 1 => exact nofun
  | _ + 2 => exact nofun

/-- A command that moves the focus leaves it on a part that is shown. Opening a view does so unless
that view is open already. -/
theorem not_focusHidden_dispatch (hc : c.movesFocus = true) (hw : w.FocusHidden → w.view = none) :
    ¬(w.dispatch c).1.FocusHidden := by
  rintro ⟨hfocus, hcollapsed⟩
  rw [sidebarCollapsed_dispatch] at hcollapsed
  cases c with
  | selectView v =>
    -- opening the view that is open leaves the focus alone, but then it was not hidden before
    by_cases hv : w.view = some v
    · rw [dispatch, if_pos hv] at hfocus
      exact absurd (hv.symm.trans (hw ⟨hfocus, hcollapsed⟩)) (Option.some_ne_none v)
    · simp only [dispatch, if_neg hv, fst_setFocus] at hfocus
      cases hfocus
  | nextFocus =>
    simp only [dispatch, fst_setFocus] at hfocus
    exact focusAfter_ne_sidebar hcollapsed 1 hfocus
  | prevFocus =>
    simp only [dispatch, fst_setFocus] at hfocus
    exact focusAfter_ne_sidebar hcollapsed (-1) hfocus
  | focusSearch =>
    simp only [dispatch, fst_setFocus] at hfocus
    cases hfocus
  | toggleSidebar =>
    have hopen : w.sidebarCollapsed = false := by simpa using hcollapsed
    by_cases hsidebar : w.focus = .sidebar
    · simp [dispatch, hopen, hsidebar, fst_setFocus] at hfocus
    · simp [dispatch, hopen, hsidebar] at hfocus
  | signedIn => cases hc
  | showNotice => cases hc
  | clearNotice => cases hc
  | logout => cases hc

/-- Signing out puts the focus on the sidebar, and no other command that does not move the focus
changes it. -/
theorem focus_dispatch (hc : c.movesFocus = false) :
    (w.dispatch c).1.focus = if c = .logout then .sidebar else w.focus := by
  cases c with
  | signedIn => rfl
  | showNotice => rfl
  | clearNotice =>
    simp only [dispatch]
    split <;> rfl
  | logout => rfl
  | selectView => cases hc
  | nextFocus => cases hc
  | prevFocus => cases hc
  | focusSearch => cases hc
  | toggleSidebar => cases hc

/-- Only a command that moves the focus collapses the sidebar or brings it back. -/
theorem sidebarCollapsed_dispatch_of_not_movesFocus (hc : c.movesFocus = false) :
    (w.dispatch c).1.sidebarCollapsed = w.sidebarCollapsed := by
  rw [sidebarCollapsed_dispatch]
  cases c <;> first | rfl | cases hc

/-- So commands that do not move the focus leave it as it was. -/
theorem sidebarCollapsed_after_of_not_movesFocus (h : ∀ c ∈ cs, c.movesFocus = false) :
    (w.after cs).sidebarCollapsed = w.sidebarCollapsed := by
  induction cs generalizing w with
  | nil => rfl
  | cons c cs ih =>
    obtain ⟨hc, hcs⟩ := List.forall_mem_cons.1 h
    exact (ih hcs).trans (sidebarCollapsed_dispatch_of_not_movesFocus hc)

/-! ### Along all commands -/

theorem focusUnmoved_nil : FocusUnmoved [] :=
  ⟨[], [], rfl, .inl rfl, nofun⟩

theorem focusUnmoved_concat_logout (cs : List Command) : FocusUnmoved (cs ++ [.logout]) :=
  ⟨cs ++ [.logout], [], (List.append_nil _).symm, .inr List.getLast?_concat, nofun⟩

theorem focusUnmoved_concat_iff (hc : c ≠ .logout) :
    FocusUnmoved (cs ++ [c]) ↔ c.movesFocus = false ∧ FocusUnmoved cs := by
  constructor
  · rintro ⟨before, later, hcs, hbefore, hlater⟩
    rcases List.eq_nil_or_concat later with rfl | ⟨rest, x, rfl⟩
    · -- the last command would be the one that signs out
      rw [List.append_nil] at hcs
      subst hcs
      rcases hbefore with hnil | hlast
      · exact absurd hnil (by simp)
      · rw [List.getLast?_concat] at hlast
        exact absurd (Option.some.inj hlast) hc
    · rw [List.concat_eq_append] at hcs hlater
      rw [← List.append_assoc] at hcs
      obtain ⟨rfl, hx⟩ := List.append_inj' hcs rfl
      obtain rfl : c = x := by simpa using hx
      rw [List.forall_mem_append] at hlater
      exact ⟨hlater.2 c (List.mem_singleton_self c), before, rest, rfl, hbefore, hlater.1⟩
  · rintro ⟨hmoves, before, later, rfl, hbefore, hlater⟩
    refine ⟨before, later ++ [c], List.append_assoc _ _ _, hbefore, ?_⟩
    rw [List.forall_mem_append]
    exact ⟨hlater, by simpa using hmoves⟩

/-- Starting without an open view, the focus is hidden as long as nothing moves it away from a
collapsed sidebar, and while it is hidden no view is open. -/
theorem focusHidden_after (hview : w.view = none) (hfocus : w.focus = .sidebar)
    (cs : List Command) :
    ((w.after cs).FocusHidden ↔ (w.after cs).sidebarCollapsed = true ∧ FocusUnmoved cs) ∧
      ((w.after cs).FocusHidden → (w.after cs).view = none) := by
  induction cs using List.reverseRecOn with
  | nil =>
    have hnil : w.after [] = w := rfl
    rw [hnil]
    exact ⟨⟨fun h ↦ ⟨h.2, focusUnmoved_nil⟩, fun h ↦ ⟨hfocus, h.1⟩⟩, fun _ ↦ hview⟩
  | append_singleton cs c ih =>
    obtain ⟨hiff, hnone⟩ := ih
    rw [after_concat]
    -- what came before counts only by what the induction says of it
    generalize w.after cs = u at hiff hnone ⊢
    cases hc : c.movesFocus with
    | true =>
      have hshown := not_focusHidden_dispatch hc hnone
      have hlogout : c ≠ .logout := by
        rintro rfl
        cases hc
      refine ⟨iff_of_false hshown fun h ↦ ?_, fun h ↦ absurd h hshown⟩
      exact absurd (((focusUnmoved_concat_iff hlogout).1 h.2).1.symm.trans hc) nofun
    | false =>
      have hkept := sidebarCollapsed_dispatch_of_not_movesFocus (w := u) hc
      have hput := focus_dispatch (w := u) hc
      -- signing out puts the focus on the sidebar and starts the count of moves anew
      by_cases hlogout : c = .logout
      · subst hlogout
        refine ⟨⟨fun h ↦ ⟨h.2, focusUnmoved_concat_logout cs⟩, fun h ↦ ⟨rfl, h.1⟩⟩, fun _ ↦ rfl⟩
      · rw [if_neg hlogout] at hput
        have hsame : (u.dispatch c).1.FocusHidden ↔ u.FocusHidden := by
          rw [FocusHidden, FocusHidden, hput, hkept]
        rw [hsame, hkept, focusUnmoved_concat_iff hlogout, and_iff_right hc]
        refine ⟨hiff, fun h ↦ ?_⟩
        rw [view_dispatch]
        cases c with
        | selectView => cases hc
        | logout => rfl
        | _ => exact hnone h

/-- **The focus is hidden only where it was put on a collapsed sidebar and stays.** Whatever the
user prefers and whatever is done:
1. keys go to a collapsed sidebar exactly if the sidebar is collapsed and nothing has moved the
   focus since the start, or since the user signed out;
2. so they never do if the sidebar is not collapsed at the start nor whenever the user signs out. -/
theorem focusHidden_after_iff (collapsed : Bool) (cs : List Command) :
    let w : Workspace := after { sidebarCollapsed := collapsed } cs
    (w.focus = .sidebar ∧ w.sidebarCollapsed = true ↔
      w.sidebarCollapsed = true ∧ FocusUnmoved cs) ∧
    (collapsed = false →
      (∀ before later, cs = before ++ .logout :: later →
        (after { sidebarCollapsed := collapsed } before).sidebarCollapsed = false) →
      ¬(w.focus = .sidebar ∧ w.sidebarCollapsed = true)) := by
  intro w
  have hiff := (focusHidden_after (w := { sidebarCollapsed := collapsed }) rfl rfl cs).1
  refine ⟨hiff, fun hstart hlogout hhidden ↦ ?_⟩
  obtain ⟨hcollapsed, before, later, rfl, hbefore, hlater⟩ := hiff.1 hhidden
  have hkept : (after { sidebarCollapsed := collapsed } (before ++ later)).sidebarCollapsed =
      (after { sidebarCollapsed := collapsed } before).sidebarCollapsed := by
    rw [after, List.foldl_append]
    exact sidebarCollapsed_after_of_not_movesFocus hlater
  rw [hkept] at hcollapsed
  rcases hbefore with rfl | hlast
  · exact absurd (hcollapsed.symm.trans hstart) nofun
  · obtain ⟨earlier, rfl⟩ := List.getLast?_eq_some_iff.1 hlast
    rw [after_concat, sidebarCollapsed_dispatch] at hcollapsed
    have hopen := hlogout earlier later (by simp)
    exact absurd (hcollapsed.symm.trans hopen) nofun

/-- The sidebar is collapsed, and the user signs out: the focus is on the sidebar. So it is when a
session starts whose user prefers the sidebar collapsed. -/
theorem signing_out_hides_focus :
    (after {} [.toggleSidebar, .logout]).FocusHidden ∧
      (after { sidebarCollapsed := true } []).FocusHidden :=
  ⟨⟨rfl, rfl⟩, rfl, rfl⟩

end PitchDesk.Workspace
