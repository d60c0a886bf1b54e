import PitchDesk.Proofs.Desk.Run
import PitchDesk.Proofs.Workspace
import PitchDesk.Sample.Accounts

/-!
# Only what may be seen is open

A desk keeps which view is open apart from what the user may do there, and both apart from the
rules that say who may see a view. `Permitted` is what keeps them in step: what the user may do is
known for exactly the open view, as the rules have it, and the rules let the user see that view. A
move opens a view by the rules, closes it, or leaves both as they were, `Move.view_capabilities`.

The rules of accounts, roles and menus ask for a role beside the permission. So a permission for
everything does not open them, `role_of_canView_users` and `role_of_canView_roles_or_menus`.

The rules enter as an oracle, which says for each view and action whether it is permitted and which
role the user has. All statements are for every oracle, and so for every account that a session can
be of; which oracle a session has is in `PitchDesk.Proofs.Access`.
-/

namespace PitchDesk

/-! ### Rules that ask for a role -/

/-- Who meets a rule that asks for a permission and for one of some roles has one of them. -/
theorem Rule.role_of_evaluate {o : Oracle} {v : Resource} {action : Action} {roles : List Role}
    (h : Rule.evaluate o (.all [.require v action, .roleIn roles]) = true) :
    ∃ role ∈ roles, o.role = some role := by
  simp only [Rule.evaluate, Rule.evaluateAll, Bool.and_true, Bool.and_eq_true,
    Option.any_eq_true, List.contains_iff_mem] at h
  obtain ⟨-, role, hrole, hmem⟩ := h
  exact ⟨role, hmem, hrole⟩

namespace Desk

variable {o : Oracle} {a : Answers} {i : Option Input} {d d' : Desk} {es : List Effect}

/-- Whoever may see the accounts is staff. -/
theorem role_of_canView_users (h : (capabilitiesIn o .users).canView = true) :
    ∃ role, o.role = some role ∧ role.isStaff = true := by
  obtain ⟨role, hmem, hrole⟩ := Rule.role_of_evaluate (v := .users) h
  exact ⟨role, hrole, List.contains_iff_mem.2 hmem⟩

/-- Whoever may see the roles or the menus is a superadministrator. -/
theorem role_of_canView_roles_or_menus {v : Resource} (hv : v = .roles ∨ v = .menus)
    (h : (capabilitiesIn o v).canView = true) : o.role = some .superadmin := by
  have hrule : Rule.evaluate o (.all [.require v .read, .roleIn [.superadmin]]) = true := by
    rcases hv with rfl | rfl <;> exact h
  obtain ⟨role, hmem, hrole⟩ := Rule.role_of_evaluate hrule
  rw [hrole, List.mem_singleton.1 hmem]

/-! ### The open view -/

/-- What the user may do is known for exactly the open view, and the user may see it. -/
structure Permitted (o : Oracle) (d : Desk) : Prop where
  capabilities : d.capabilities = d.workspace.view.map (capabilitiesIn o)
  canView : ∀ v, d.workspace.view = some v → (capabilitiesIn o v).canView = true

/-- An answer opens no view. -/
theorem view_receive (d : Desk) (v : Resource) (seq : UInt64)
    (answer : Except String (Page Record)) :
    (d.receive v seq answer).desk.workspace.view = d.workspace.view ∧
      (d.receive v seq answer).desk.capabilities = d.capabilities := by
  obtain ⟨row, menu, notice, token, hreceive⟩ := exists_receive_eq d v seq answer
  rw [hreceive]
  exact ⟨rfl, rfl⟩

/-- A move opens a view that the user may see and works out what the user may do there, or it closes
the open view and forgets that, or it leaves both alone. -/
theorem Move.view_capabilities (h : Move o a i d d' es) :
    (∃ v, (capabilitiesIn o v).canView = true ∧ d'.workspace.view = some v ∧
      d'.capabilities = some (capabilitiesIn o v)) ∨
    (d'.workspace.view = none ∧ d'.capabilities = none) ∨
    d'.workspace.view = d.workspace.view ∧ d'.capabilities = d.capabilities := by
  -- all other moves change neither which view is open nor what the user may do there
  cases h with
  | openView hv => exact .inl ⟨_, hv, Workspace.view_dispatch _ _, rfl⟩
  | logout => exact .inr (.inl ⟨Workspace.view_dispatch _ _, rfl⟩)
  | receive => exact .inr (.inr (view_receive d _ _ _))
  | clearNotice => exact .inr (.inr ⟨Workspace.view_dispatch _ _, rfl⟩)
  | toggleSidebar => exact .inr (.inr ⟨Workspace.view_dispatch _ _, rfl⟩)
  | focus hc =>
    rcases hc with rfl | rfl | rfl <;> exact .inr (.inr ⟨Workspace.view_dispatch _ _, rfl⟩)
  | _ => exact .inr (.inr ⟨rfl, rfl⟩)

theorem Permitted.move (hd : Permitted o d) (h : Move o a i d d' es) : Permitted o d' := by
  rcases h.view_capabilities with ⟨v, hv, hview, hcaps⟩ | ⟨hview, hcaps⟩ | ⟨hview, hcaps⟩
  · refine ⟨by rw [hview, hcaps]; rfl, fun w hw ↦ ?_⟩
    rw [hview] at hw
    cases hw
    exact hv
  · exact ⟨by rw [hview, hcaps]; rfl, by simp [hview]⟩
  · exact ⟨by rw [hview, hcaps]; exact hd.capabilities, by rw [hview]; exact hd.canView⟩

/-- Along every run, what the user may do is known for exactly the open view. -/
theorem Run.permitted (h : Run o d es) : Permitted o d := by
  refine h.induction (P := fun d _ ↦ Permitted o d) ?_ fun hd hm ↦ hd.move hm
  intro w menu pageSize hw
  exact ⟨by simp [new, hw], by simp [new, hw]⟩

/-- **Only what the user may see is open.** Along every run, what the user may do in the open view
is known as the rules have it, and they let the user see the view; without an open view nothing is
known. So accounts are open for staff alone, and roles and menus for superadministrators alone,
whatever else is permitted. A view that the user may not see does not open: all that changes is the
notice. -/
theorem Run.open_view_permitted (h : Run o d es) :
    (∀ v, d.workspace.view = some v →
      d.capabilities = some ((Descriptor.ofResource v).evaluate o) ∧
        ((Descriptor.ofResource v).evaluate o).canView = true) ∧
    (d.workspace.view = none → d.capabilities = none) ∧
    (d.workspace.view = some .users → ∃ role, o.role = some role ∧ role.isStaff = true) ∧
    (d.workspace.view = some .roles ∨ d.workspace.view = some .menus →
      o.role = some .superadmin) ∧
    ∀ a v, ((Descriptor.ofResource v).evaluate o).canView = false →
      (switchView o a d v).desk =
        { d with
          workspace := { d.workspace with
            notice := some ⟨.error, "you do not have access to " ++ v.label⟩ }
          noticeToken := d.nextToken } ∧
      (switchView o a d v).effects = [.clearLater d.nextToken] := by
  have hd := h.permitted
  refine ⟨fun v hv ↦ ?_, fun hv ↦ ?_, fun hv ↦ ?_, fun hv ↦ ?_, fun a v hv ↦ ?_⟩
  · exact ⟨by rw [hd.capabilities, hv]; rfl, hd.canView v hv⟩
  · rw [hd.capabilities, hv]
    rfl
  · exact role_of_canView_users (hd.canView _ hv)
  · rcases hv with hv | hv
    · exact role_of_canView_roles_or_menus (.inl rfl) (hd.canView _ hv)
    · exact role_of_canView_roles_or_menus (.inr rfl) (hd.canView _ hv)
  · rw [switchView_of_not_canView hv]
    exact ⟨rfl, rfl⟩

/-- An administrator to whom everything is permitted starts with the accounts, since the roles,
which come first in the menu, are not for administrators. A press on the roles opens nothing. -/
theorem Run.users_stay_open :
    ∃ d es, Run (Sample.rootSession .admin).oracle d es ∧
      (Sample.rootSession .admin).oracle.permits "roles" "read" = true ∧
      d.workspace.view = some .users ∧ (∃ caps, d.capabilities = some caps ∧ caps.canView = true) ∧
      d.workspace.notice = some ⟨.error, "you do not have access to roles"⟩ := by
  have h := Run.step
    (.start ⟨.ok (), .ok (), .ok (), .ok (), 0, fun _ ↦ none⟩ {}
      ⟨.server, [.node (Sample.menuRecord 1 "roles" "/roles" none 1) [],
        .node (Sample.menuRecord 2 "users" "/users" none 2) []]⟩ 10 rfl)
    ⟨.ok (), .ok (), .ok (), .ok (), 0, fun _ ↦ none⟩ (.mouse (.press 3 4))
    (o := (Sample.rootSession .admin).oracle)
  refine ⟨_, _, h, ?_, ?_, ⟨_, h.open_view_permitted.1 .users ?_⟩, ?_⟩ <;> rfl

end Desk

end PitchDesk
