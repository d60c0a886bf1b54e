import PitchDesk.Proofs.Desk.Typing

/-!
# Ways to a view

The sidebar opens a view from an entry that leads to it and is no group. Every such entry can be
reached with the keys of the sidebar, whatever is folded, and nothing else that happens in a
session opens a view: the rules on what the user may see matter only where an entry is activated,
`step_eq_or_activates`. So the views that a session can come to are those that such an entry leads
to, `reaches_view_iff`. The menu counts more views as reachable: a group may have a path too, and
activating a group only folds or unfolds it.

## How it is shown that nothing else opens a view

An oracle is asked only when a view is opened. So a turn that does the same under every oracle does
the same under `closed`, which permits nothing, and under that one no move opens a view
(`Moves.view_of_closed`). Each handler is either such a turn or activates an entry; no handler has
to be followed into what it does with lists, menus and overlays.

That there is a way to every entry is shown on the sidebar alone, in
`PitchDesk.Proofs.Sidebar.Reach`, and keys carry it over to the desk (`play_typed_of_sidebar`).
-/

namespace PitchDesk

/-- A key that moves the cursor of the sidebar, folds or unfolds a group, or activates an entry. -/
def Key.IsForSidebar (k : Key) : Prop :=
  k.sidebarOp?.isSome ∨ k.code = .enter ∨ k.code = .right ∨ k.code = .char 'l' ∧ ¬k.isControl

namespace Desk

variable {o : Oracle} {a : Answers} {i : Option Input} {d d' : Desk} {es : List Effect}
  {v : Resource}

/-! ### What opens views -/

/-- An oracle that permits nothing, to nobody. -/
def closed : Oracle := ⟨fun _ _ ↦ false, none⟩

/-- Under the oracle that permits nothing, no view may be seen. -/
theorem canView_closed (v : Resource) : (capabilitiesIn closed v).canView = false := by
  cases v <;> rfl

/-- Where nothing is permitted no view opens. -/
theorem Moves.view_of_closed (h : Moves closed a i d d' es) (hv : d'.workspace.view = some v) :
    d.workspace.view = some v := by
  induction h with
  | nil => exact hv
  | cons hm _ ih =>
    have hnext := ih hv
    rcases hm.view_capabilities with ⟨w, hw, -⟩ | ⟨hview, -⟩ | ⟨hview, -⟩
    · rw [canView_closed] at hw
      cases hw
    · rw [hview] at hnext
      cases hnext
    · rwa [hview] at hnext

/-- A move shows the same menu in the sidebar, or none any more. -/
theorem Move.sidebar_menu (h : Move o a i d d' es) :
    d'.sidebar.menu = d.sidebar.menu ∨ d'.sidebar.menu = [] := by
  cases h with
  | moveInSidebar hmenu => exact .inl hmenu
  | logout => exact .inr rfl
  | receive => exact .inl (congrArg Sidebar.menu (collapsed_receive d _ _ _).1)
  | _ => exact .inl rfl

theorem Moves.sidebar_menu (h : Moves o a i d d' es) :
    d'.sidebar.menu = d.sidebar.menu ∨ d'.sidebar.menu = [] := by
  induction h with
  | nil => exact .inl rfl
  | cons hm _ ih =>
    rcases ih with ih | ih
    · rw [ih]
      exact hm.sidebar_menu
    · exact .inr ih

/-- A turn in which an entry of the sidebar is activated. -/
def Activates (o : Oracle) (a : Answers) (d : Desk) (t : Turn) : Prop :=
  ∃ d' : Desk, d'.workspace = d.workspace ∧ d'.sidebar.menu = d.sidebar.menu ∧
    t = d'.activateEntry o a

/-! Handler by handler: either the oracle is not asked, or an entry is activated. -/

/-- Keys of the sidebar move the cursor and fold groups, or activate an entry. -/
theorem sidebarKey_eq_or_activates (o o' : Oracle) (a : Answers) (d : Desk) (k : Key) :
    d.sidebarKey o a k = d.sidebarKey o' a k ∨ Activates o a d (d.sidebarKey o a k) := by
  unfold sidebarKey
  split
  case h_9 | h_10 | h_11 => exact .inr ⟨d, rfl, rfl, rfl⟩
  all_goals exact .inl rfl

/-- Of the keys for the screen, only those of the sidebar activate an entry. -/
theorem freeKey_eq_or_activates (o o' : Oracle) (a : Answers) (d : Desk) (k : Key) :
    d.freeKey o a k = d.freeKey o' a k ∨ Activates o a d (d.freeKey o a k) := by
  unfold freeKey
  split_ifs
  case neg =>
    cases d.workspace.focus with
    | sidebar => exact sidebarKey_eq_or_activates o o' a d k
    | search => exact .inl rfl
    | table => exact .inl rfl
  all_goals exact .inl rfl

/-- Keys for an overlay or a menu activate none. -/
theorem key_eq_or_activates (o o' : Oracle) (a : Answers) (d : Desk) (k : Key) :
    d.key o a k = d.key o' a k ∨ Activates o a d (d.key o a k) := by
  unfold key
  split
  · exact .inl rfl
  · split
    · exact .inl rfl
    · exact .inl rfl
    · exact .inl rfl
    · split
      · exact .inl rfl
      · exact freeKey_eq_or_activates o o' a d k

/-- A press in the sidebar activates the entry that it is on, or it is on none. -/
theorem pressSidebar_eq_or_activates (o o' : Oracle) (a : Answers) (d : Desk) (area : Area)
    (row : Nat) :
    d.pressSidebar o a area row = d.pressSidebar o' a area row ∨
      Activates o a d (d.pressSidebar o a area row) := by
  dsimp only [pressSidebar]
  split
  · exact .inl rfl
  · split
    · exact .inr ⟨{ d with sidebar := d.sidebar.moveCursor _ }, rfl, rfl, rfl⟩
    · exact .inl rfl

theorem press_eq_or_activates (o o' : Oracle) (a : Answers) (d : Desk) (column row : Nat) :
    d.press o a column row = d.press o' a column row ∨
      Activates o a d (d.press o a column row) := by
  dsimp only [press]
  split
  · exact .inl rfl
  · -- a press beside the menu meets a desk without one
    generalize (TableAreas.ofPane d.panes.table).target d.menu column row = target
    generalize hd' : (if target.keepsMenu = true then d else d.closeMenu) = d'
    have hsame : d'.workspace = d.workspace ∧ d'.sidebar = d.sidebar := by
      rw [← hd']
      split <;> exact ⟨rfl, rfl⟩
    generalize d'.workspace.view = view, d.panes.sidebar.filter (·.contains column row) = side
    cases side with
    | none => cases view <;> exact .inl rfl
    | some area =>
      refine (pressSidebar_eq_or_activates o o' a d' area row).imp_right ?_
      rintro ⟨d'', hworkspace, hmenu, ht⟩
      exact ⟨d'', by rw [hworkspace, hsame.1], by rw [hmenu, hsame.2], ht⟩

/-- What the user may see matters only where an entry of the sidebar is activated. -/
theorem step_eq_or_activates (o o' : Oracle) (a : Answers) (d : Desk) (i : Input) :
    d.step o a i = d.step o' a i ∨ Activates o a d (d.step o a i) := by
  cases i with
  | key k => exact key_eq_or_activates o o' a d k
  | mouse m =>
    cases m with
    | press column row => exact press_eq_or_activates o o' a d column row
    | scroll => exact .inl rfl
    | other => exact .inl rfl
  | news => exact .inl rfl
  | resized => exact .inl rfl
  | measured => exact .inl rfl

/-- The view that is opened is the open one from then on, if the user may see it. -/
theorem view_switchView (o : Oracle) (a : Answers) (d : Desk) (w : Resource) :
    (switchView o a d w).desk.workspace.view =
      if (capabilitiesIn o w).canView then some w else d.workspace.view := by
  dsimp only [switchView]
  split
  · -- whatever comes of the request, the view is open
    unfold ask fetch
    dsimp only
    split
    · exact Workspace.view_dispatch _ _
    · exact Workspace.view_dispatch d.workspace (.selectView w)
  · rfl

/-- An entry opens the view that it leads to, unless it is a group. -/
theorem Activates.leadsTo {t : Turn} (h : Activates o a d t)
    (hv : t.desk.workspace.view = some v) :
    d.workspace.view = some v ∨ Sidebar.LeadsTo d.sidebar.menu v := by
  obtain ⟨d', hworkspace, hmenu, rfl⟩ := h
  rw [← hworkspace, ← hmenu]
  unfold activateEntry at hv
  split at hv
  · exact .inl hv
  · rename_i e he
    split at hv
    · exact .inl hv
    · rename_i hgroup
      split at hv
      · rename_i w hw
        rw [view_switchView] at hv
        split at hv
        · cases hv
          exact .inr (Sidebar.leadsTo_of_selected? he (Bool.eq_false_of_not_eq_true hgroup) hw)
        · exact .inl hv
      · exact .inl hv

/-- Whatever happens, no other view opens than one that an entry leads to which is no group. -/
theorem leadsTo_of_step {i : Input} (hv : (d.step o a i).desk.workspace.view = some v) :
    d.workspace.view = some v ∨ Sidebar.LeadsTo d.sidebar.menu v := by
  rcases step_eq_or_activates o closed a d i with heq | hactivates
  · -- the turn would be the same if nothing were permitted
    rw [heq] at hv
    exact .inl ((makes_step d i).view_of_closed hv)
  · exact hactivates.leadsTo hv

/-- An empty menu leads to no view. -/
theorem not_leadsTo_nil : ¬Sidebar.LeadsTo [] v := by
  rintro ⟨e, he, -⟩
  cases he

/-- At every later point, a view that is open was open before, or an entry leads to it. -/
theorem leadsTo_of_play {ys : List Occasion} (hv : (play o d ys).desk.workspace.view = some v) :
    d.workspace.view = some v ∨ Sidebar.LeadsTo d.sidebar.menu v := by
  induction ys generalizing d with
  | nil => exact .inl hv
  | cons y ys ih =>
    rcases ih hv with hv | hleads
    · exact leadsTo_of_step hv
    · -- the menu is the same or gone
      rcases (makes_step (o := o) (a := y.answers) d y.input).sidebar_menu with hmenu | hmenu
      · exact .inr (hmenu ▸ hleads)
      · exact absurd (hmenu ▸ hleads) not_leadsTo_nil

/-! ### Ways to views -/

/-- Activating an entry opens the view that it leads to. -/
theorem activateEntry_of_view {e : Sidebar.Entry} (he : d.sidebar.selected? = some e)
    (hgroup : e.isGroup = false) (hview : e.view? = some v) :
    d.activateEntry o a = switchView o a d v := by
  simp [activateEntry, he, hgroup, hview]

/-- To an entry that is no group there is a way with the keys of the sidebar. -/
theorem exists_keys_of_leadsTo (a : Answers) (hfree : d.overlay = none) (hmenu : d.menu = none)
    (hfocus : d.workspace.focus = .sidebar) (hv : (capabilitiesIn o v).canView = true)
    (hleads : Sidebar.LeadsTo d.sidebar.menu v) :
    ∃ ks, (∀ k ∈ ks, k.IsForSidebar) ∧
      (play o d (typed a ks)).desk.workspace.view = some v := by
  obtain ⟨ops, e, hops, he, hgroup, hview⟩ := hleads.exists_ops
  obtain ⟨ks, hks⟩ := Key.exists_map_sidebarOp? hops
  refine ⟨ks ++ [⟨.enter, false, false, false⟩], fun k hk ↦ ?_, ?_⟩
  · rcases List.mem_append.1 hk with hk | hk
    · exact .inl (Key.isSome_of_map_eq hks k hk)
    · rw [List.mem_singleton.1 hk]
      exact .inr (.inl rfl)
  · have hplay := play_typed_of_sidebar (o := o) (a := a) hfree hmenu hfocus hks
    have henter := key_enter_of_sidebar (o := o) (a := a)
      (d := { d with sidebar := d.sidebar.after ops }) hfree hmenu hfocus
        (k := ⟨.enter, false, false, false⟩) rfl
    rw [play_typed_concat hplay, henter, activateEntry_of_view he hgroup hview, view_switchView,
      if_pos hv]

/-- **The keys of the sidebar open a view exactly if an entry that is no group leads to it.** Let
the sidebar have the focus, while nothing lies over the screen and no menu is open, and let the user
be allowed to see a view:
1. the menu counts the view as reachable if any entry leads to it, whether it is a group or not, and
   whether it is visible or not;
2. keys of the sidebar can make it the open view exactly if it is open already, or an entry leads to
   it that is no group; what is folded and where the cursor is does not matter;
3. if no entry leads to it but groups, nothing that happens opens it: if it is not open, it never
   is. -/
theorem reaches_view_iff (o : Oracle) (a : Answers) (hfree : d.overlay = none)
    (hmenu : d.menu = none) (hfocus : d.workspace.focus = .sidebar)
    (hv : (capabilitiesIn o v).canView = true) :
    (v ∈ d.sidebar.routableViews ↔
      ∃ e ∈ (Sidebar.ofMenu d.sidebar.menu false).visible, e.view? = some v) ∧
    ((∃ ks, (∀ k ∈ ks, k.IsForSidebar) ∧
        (play o d (typed a ks)).desk.workspace.view = some v) ↔
      d.workspace.view = some v ∨
        ∃ e ∈ (Sidebar.ofMenu d.sidebar.menu false).visible,
          e.isGroup = false ∧ e.view? = some v) ∧
    ((∀ e ∈ (Sidebar.ofMenu d.sidebar.menu false).visible, e.view? = some v → e.isGroup = true) →
      ∀ ys, d.workspace.view ≠ some v → (play o d ys).desk.workspace.view ≠ some v) := by
  refine ⟨Sidebar.mem_routableViews_iff, ⟨?_, ?_⟩, fun hgroups ys hclosed hopen ↦ ?_⟩
  · rintro ⟨ks, -, hopen⟩
    exact leadsTo_of_play hopen
  · rintro (hopen | hleads)
    · exact ⟨[], nofun, hopen⟩
    · exact exists_keys_of_leadsTo a hfree hmenu hfocus hv hleads
  · obtain ⟨e, he, hgroup, hview⟩ := (leadsTo_of_play hopen).resolve_left hclosed
    exact absurd (hgroups e he hview) (by simp [hgroup])

/-- A session of an administrator whose menu has a group with a path of its own. -/
def groupedOpening : Opening :=
  { sampleOpening with
    menu :=
      ⟨.server,
        [.node (Sample.menuRecord 1 "events" "/events" none 1) [],
          .node (Sample.menuRecord 2 "vendors" "/vendors" none 2)
            [.node (Sample.menuRecord 3 "payments" "/payments" (some 2) 1) []]]⟩ }

/-- The focus goes back to the sidebar, and the group is folded. -/
def foldedGroup : List Occasion :=
  typed sampleAnswers
    ([.backTab, .backTab, .char 'j', .char 'h'].map (⟨·, false, false, false⟩))

/-- The entry of the payments is folded away, and still there is a way to them. -/
theorem folded_payments_open :
    let o := (Sample.rootSession .admin).oracle
    let d := groupedOpening.after o foldedGroup
    d.overlay = none ∧ d.menu = none ∧ d.workspace.focus = .sidebar ∧
      (capabilitiesIn o .payments).canView = true ∧
      (∀ e ∈ d.sidebar.visible, e.view? ≠ some .payments) ∧
      ∃ ks, (∀ k ∈ ks, k.IsForSidebar) ∧
        (play o d (typed sampleAnswers ks)).desk.workspace.view = some .payments := by
  intro o d
  have hfree : d.overlay = none := by decide +kernel
  have hmenu : d.menu = none := by decide +kernel
  have hfocus : d.workspace.focus = .sidebar := by decide +kernel
  have hv : (capabilitiesIn o .payments).canView = true := by decide +kernel
  have hleads : ∃ e ∈ (Sidebar.ofMenu d.sidebar.menu false).visible,
      e.isGroup = false ∧ e.view? = some .payments := by decide +kernel
  have hway := (reaches_view_iff o sampleAnswers hfree hmenu hfocus hv).2.1.2 (.inr hleads)
  exact ⟨hfree, hmenu, hfocus, hv, by decide +kernel, hway⟩

/-- The menu counts the vendors as reachable, and the user may see them, but only the group leads to
them, and nothing that is done opens them. -/
theorem vendors_of_group_stay_closed :
    let o := (Sample.rootSession .admin).oracle
    let d := groupedOpening.after o foldedGroup
    d.overlay = none ∧ d.menu = none ∧ d.workspace.focus = .sidebar ∧
      .vendors ∈ d.sidebar.routableViews ∧ (capabilitiesIn o .vendors).canView = true ∧
      ∀ ys, (play o d ys).desk.workspace.view ≠ some .vendors := by
  intro o d
  have hclosed : d.workspace.view ≠ some .vendors := by decide +kernel
  have hgroup : ¬Sidebar.LeadsTo d.sidebar.menu .vendors := by
    unfold Sidebar.LeadsTo
    decide +kernel
  refine ⟨?_, ?_, ?_, ?_, ?_, fun ys hopen ↦ ?_⟩
  case refine_6 => exact (leadsTo_of_play hopen).elim hclosed hgroup
  all_goals decide +kernel

end Desk

end PitchDesk
