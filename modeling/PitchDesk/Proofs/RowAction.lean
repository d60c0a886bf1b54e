import Mathlib.Data.List.Forall2
import Mathlib.Tactic.Common
import PitchDesk.RowAction

/-!
# Which actions the menu of a row has

The menu of a row has an action exactly if the capabilities allow it for a row of its kind and
status: `mem_actions`. So it has six items at most, `size_actions_le`. With more capabilities the
menu keeps its items in their order and only gets others between them, `actions_sublist`.

A menu is written down with all its items, some of them hidden, and shows those that are not.
`ActionMenu.map_action_visible` and `ActionMenu.visible_sublist` are about such lists in general;
what is particular to rows is only when each item is hidden, `Record.allows`.
-/

namespace PitchDesk

/-- The actions of the items that are not hidden, where what is hidden depends on the action. -/
theorem ActionMenu.map_action_visible {α : Type} {items : List (ActionItem α)} {allowed : α → Bool}
    (h : ∀ i ∈ items, i.hidden = !allowed i.action) :
    (visible items).map (·.action) = (items.map (·.action)).filter allowed := by
  rw [List.filter_map]
  refine congrArg _ (List.filter_congr fun i hi ↦ ?_)
  rw [h i hi, Bool.not_not]
  rfl

/-- Hiding fewer items keeps those that are shown, in their order. -/
theorem ActionMenu.visible_sublist {α : Type} {items items' : List (ActionItem α)}
    (h : List.Forall₂ (fun i i' ↦ i.hidden = false → i' = i) items items') :
    (visible items).Sublist (visible items') := by
  induction h with
  | nil => exact .slnil
  | @cons i i' items items' hi _ ih =>
    cases hshown : i.hidden with
    | false =>
      obtain rfl := hi hshown
      simpa [visible, hshown] using ih
    | true =>
      refine (List.Sublist.trans ?_ ih).trans ((List.sublist_cons_self i' items').filter _)
      simp [visible, hshown]

/-- Whoever can do something under the first capabilities can do it under the second. -/
structure Capabilities.Within (c c' : Capabilities) : Prop where
  view : c.canView = true → c'.canView = true
  create : c.canCreate = true → c'.canCreate = true
  update : c.canUpdate = true → c'.canUpdate = true
  delete : c.canDelete = true → c'.canDelete = true
  exportRows : c.canExport = true → c'.canExport = true
  shortlist : c.canShortlist = true → c'.canShortlist = true
  manage : c.canManage = true → c'.canManage = true

namespace Record

/-- Whether some capabilities allow an action for a row. -/
def allows (caps : Capabilities) (row : Record) : RowAction → Bool
  | .view => caps.canView
  | .edit => caps.canUpdate
  | .uploadDocument => row.isSubmission && caps.canUpdate
  | .shortlist => row.isOpenPitch && caps.canShortlist
  | .markWinner => row.isShortlisted && caps.canShortlist
  | .exportRow => caps.canExport
  | .delete => caps.canDelete

/-- The menu of a row has the actions that the capabilities allow for it. -/
theorem mem_actions {caps : Capabilities} {row : Record} {action : RowAction} :
    action ∈ (row.actions caps).items.map (·.action) ↔ row.allows caps action = true := by
  have hactions : (row.actions caps).items.map (·.action) =
      [.view, .edit, .uploadDocument, .shortlist, .markWinner, .exportRow, .delete].filter
        (row.allows caps) := ActionMenu.map_action_visible (by simp [allows])
  rw [hactions, List.mem_filter, and_iff_right]
  cases action <;> decide

/-- More capabilities allow more. -/
theorem allows_of_within {c c' : Capabilities} (h : c.Within c') {row : Record}
    {action : RowAction} (ha : row.allows c action = true) : row.allows c' action = true := by
  cases action with
  | view => exact h.view ha
  | edit => exact h.update ha
  | uploadDocument =>
    rw [allows, Bool.and_eq_true] at ha ⊢
    exact ha.imp_right h.update
  | shortlist =>
    rw [allows, Bool.and_eq_true] at ha ⊢
    exact ha.imp_right h.shortlist
  | markWinner =>
    rw [allows, Bool.and_eq_true] at ha ⊢
    exact ha.imp_right h.shortlist
  | exportRow => exact h.exportRows ha
  | delete => exact h.delete ha

/-- With more capabilities the menu of a row keeps its items, in their order. -/
theorem actions_sublist {c c' : Capabilities} (h : c.Within c') (row : Record) :
    (row.actions c).items.Sublist (row.actions c').items := by
  -- an item is hidden exactly if its action is not allowed, so one that is shown stays as it is
  have hitem : ∀ (label icon : String) (variant : ItemVariant) (action : RowAction),
      (!row.allows c action) = false →
        (⟨label, icon, action, variant, !row.allows c' action⟩ : ActionItem RowAction) =
          ⟨label, icon, action, variant, !row.allows c action⟩ := by
    intro label icon variant action hshown
    have ha : row.allows c action = true := by simpa using hshown
    rw [ha, allows_of_within h ha]
  exact ActionMenu.visible_sublist <|
    .cons (hitem _ _ _ .view) <| .cons (hitem _ _ _ .edit) <|
    .cons (hitem _ _ _ .uploadDocument) <| .cons (hitem _ _ _ .shortlist) <|
    .cons (hitem _ _ _ .markWinner) <| .cons (hitem _ _ _ .exportRow) <|
    .cons (hitem _ _ _ .delete) .nil

/-- A submission that may still be shortlisted is not shortlisted. -/
theorem isShortlisted_of_isOpenPitch {row : Record} (h : row.isOpenPitch = true) :
    row.isShortlisted = false := by
  cases row <;> simp_all [isOpenPitch, isShortlisted]

/-- No menu has all seven actions. -/
theorem size_actions_le (caps : Capabilities) (row : Record) : (row.actions caps).size ≤ 6 := by
  -- a submission is not to be shortlisted and to win at once, so one of these two is hidden
  refine Nat.le_of_lt_succ (List.length_filter_lt_length_iff_exists.2 ?_)
  by_cases h : row.isOpenPitch = true
  · exact ⟨_, List.mem_of_getElem? (i := 4) rfl, by simp [isShortlisted_of_isOpenPitch h]⟩
  · exact ⟨_, List.mem_of_getElem? (i := 3) rfl, by simp [h]⟩

end Record

end PitchDesk
