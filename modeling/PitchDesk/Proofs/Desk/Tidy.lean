import PitchDesk.Proofs.Desk.Access
import PitchDesk.Proofs.Desk.Requests
import PitchDesk.Proofs.Desk.Session

/-!
# A desk is always in order

What is open on a desk refers to rows by their places, and rows are replaced whenever an answer
comes. `Tidy` is what holds all the same: at most one thing is open at a time, the selected row and
the row of the open menu are rows that are shown, the menu has the items of that row and one of
them is highlighted, and the sidebar is collapsed exactly if the screen is laid out for that.

Each part is kept by every move on its own, since moves that open something say that nothing else
is open then. So a menu that is open always belongs to a row, and choosing from it always does
something, `Opening.tidy`.

## How each part is kept

* `Move.openCount_le_one`: the moves that open something have a free screen as their guard, and all
  others close or leave alone. The count is over the fields of the desk and not over `overlays`,
  since the menu of a row is none of those.
* `Move.selectedRow_le`: only an answer changes the rows of the open view, and it moves the
  selection to a row that is there (`receive_cases`).
* `Move.fits`: a menu is opened for a row and closed when the rows of its view change. So the place
  that it remembers is never one of other rows.
* `Move.sidebarCollapsed_eq`: the workspace and the sidebar both remember whether the sidebar is
  hidden, and one move changes both.
-/

namespace PitchDesk.Desk

variable {o : Oracle} {a : Answers} {i : Option Input} {d d' : Desk} {es : List Effect}

/-! ### Rows -/

/-- The rows of a view that was not opened yet are those of an empty list. -/
theorem rows_eq_rows_list (d : Desk) (v : Resource) : d.rows v = (d.list v).rows := by
  unfold rows list
  cases d.lists v <;> rfl

/-- A list that takes the place of one with the same rows leaves all rows as they are. -/
theorem rows_setList_of_rows_eq {v : Resource} {l : Listing Record}
    (h : l.rows = (d.list v).rows) (w : Resource) : (d.setList v l).rows w = d.rows w := by
  rw [rows_eq_rows_list, rows_eq_rows_list, list_setList]
  split
  · subst w
    exact h
  · rfl

/-- An answer brings other rows to the open view, which closes the menu and leaves a row selected
that is there, or it leaves all this alone. -/
theorem receive_cases (d : Desk) (v : Resource) (seq : UInt64)
    (answer : Except String (Page Record)) :
    ((d.receive v seq answer).desk.menu = none ∧
      ∀ w, d.workspace.view = some w →
        (d.receive v seq answer).desk.selectedRow ≤
          ((d.receive v seq answer).desk.rows w).length - 1) ∨
    ((d.receive v seq answer).desk.menu = d.menu ∧
      (d.receive v seq answer).desk.selectedRow = d.selectedRow ∧
      ∀ w, d.workspace.view = some w → (d.receive v seq answer).desk.rows w = d.rows w) := by
  generalize hresult : (d.list v).apply seq (answer.mapError fun message ↦ ⟨message, []⟩) = result
  -- an answer that is not accepted leaves the rows of its own list alone too
  have hkept (h : result.2 ≠ .applied) (w : Resource) : (d.setList v result.1).rows w = d.rows w :=
    rows_setList_of_rows_eq (by subst hresult; exact Listing.rows_apply_of_ne_applied h) w
  dsimp only [receive]
  rw [hresult]
  split
  · rename_i happlied
    by_cases hview : d.workspace.view = some v
    · have hopen : (d.setList v result.1).workspace.view = some v := hview
      rw [settle, if_pos hopen]
      refine .inl ⟨rfl, fun w hw ↦ ?_⟩
      rw [hview] at hw
      cases hw
      exact Nat.min_le_right _ _
    · have hopen : (d.setList v result.1).workspace.view ≠ some v := hview
      rw [settle, if_neg hopen]
      refine .inr ⟨rfl, rfl, fun w hw ↦ ?_⟩
      have hne : w ≠ v := by
        rintro rfl
        exact hview hw
      show (d.setList v result.1).rows w = d.rows w
      rw [rows_eq_rows_list, list_setList, if_neg hne, rows_eq_rows_list]
  · rename_i hfailed
    exact .inr ⟨rfl, rfl, fun w _ ↦ hkept (by rw [hfailed]; exact nofun) w⟩
  · rename_i hstale
    exact .inr ⟨rfl, rfl, fun w _ ↦ hkept (by rw [hstale]; exact nofun) w⟩

/-! ### One thing at a time -/

/-- How many things are open: what lies over the screen, and the menu of a row. -/
def openCount (d : Desk) : Nat :=
  [d.detail.isSome, d.upload.isSome, d.confirm.isSome, d.menu.isSome].count true

/-- What lies over the screen is to be read, or it is a question. -/
theorem overlays_eq_nil_iff :
    d.overlays = [] ↔ d.detail = none ∧ d.upload = none ∧ d.confirm = none := by
  unfold overlays
  cases d.detail <;> cases d.upload <;> cases d.confirm <;> simp

/-- Where nothing lies over the screen, only a menu can be open. -/
theorem openCount_le_one_of_overlays (h : d.overlays = []) : d.openCount ≤ 1 := by
  obtain ⟨hdetail, hupload, hconfirm⟩ := overlays_eq_nil_iff.1 h
  rw [openCount, hdetail, hupload, hconfirm]
  cases d.menu <;> simp

/-- Beside an open menu nothing lies over the screen. -/
theorem overlays_eq_nil_of_menu {m : OpenMenu} (hd : d.openCount ≤ 1) (hm : d.menu = some m) :
    d.overlays = [] := by
  rw [openCount, hm] at hd
  rw [overlays_eq_nil_iff]
  revert hd
  cases d.detail <;> cases d.upload <;> cases d.confirm <;> simp

/-- If nothing is open that was not open before, no more is open than before. -/
theorem openCount_le_one_of_imp (hd : d.openCount ≤ 1)
    (hdetail : d'.detail.isSome → d.detail.isSome)
    (hupload : d'.upload.isSome → d.upload.isSome)
    (hconfirm : d'.confirm.isSome → d.confirm.isSome)
    (hmenu : d'.menu.isSome → d.menu.isSome) : d'.openCount ≤ 1 := by
  refine le_trans ?_ hd
  unfold openCount
  generalize d.detail.isSome = x₁, d.upload.isSome = x₂, d.confirm.isSome = x₃,
    d.menu.isSome = x₄, d'.detail.isSome = y₁, d'.upload.isSome = y₂, d'.confirm.isSome = y₃,
    d'.menu.isSome = y₄ at *
  revert x₁ x₂ x₃ x₄ y₁ y₂ y₃ y₄
  decide

/-- An answer opens nothing. -/
theorem overlays_receive (d : Desk) (v : Resource) (seq : UInt64)
    (answer : Except String (Page Record)) :
    (d.receive v seq answer).desk.detail = d.detail ∧
      (d.receive v seq answer).desk.upload = d.upload ∧
      (d.receive v seq answer).desk.confirm = d.confirm := by
  obtain ⟨row, menu, notice, token, hreceive⟩ := exists_receive_eq d v seq answer
  rw [hreceive]
  exact ⟨rfl, rfl, rfl⟩

/-- No move opens a second thing. -/
theorem Move.openCount_le_one (hd : d.openCount ≤ 1) (h : Move o a i d d' es) :
    d'.openCount ≤ 1 := by
  -- what opens, opens on a desk where nothing else is open; all else closes or stays as it was
  cases h with
  | toggleMenu button hfree => exact openCount_le_one_of_overlays hfree
  | openDetail hfree hmenu =>
    obtain ⟨-, hupload, hconfirm⟩ := overlays_eq_nil_iff.1 hfree
    simp [openCount, hupload, hconfirm, hmenu]
  | askUpload hfree =>
    obtain ⟨hdetail, -, hconfirm⟩ := overlays_eq_nil_iff.1 hfree
    simp [openCount, hdetail, hconfirm]
  | askDelete hfree =>
    obtain ⟨hdetail, hupload, -⟩ := overlays_eq_nil_iff.1 hfree
    simp [openCount, hdetail, hupload]
  | highlight delta hopen =>
    exact openCount_le_one_of_imp hd id id id (by simp [Dropdown.moveHighlight])
  | typePath path hp => exact openCount_le_one_of_imp hd id (by simp [hp]) id id
  | closeMenu => exact openCount_le_one_of_imp hd id id id nofun
  | closeDetail => exact openCount_le_one_of_imp hd nofun id id id
  | cancelUpload => exact openCount_le_one_of_imp hd id nofun id id
  | upload => exact openCount_le_one_of_imp hd id nofun id id
  | cancelDelete => exact openCount_le_one_of_imp hd id id nofun id
  | delete => exact openCount_le_one_of_imp hd id id nofun id
  | toggleSidebar => exact openCount_le_one_of_imp hd id id id nofun
  | openView => exact openCount_le_one_of_imp hd id id id nofun
  | logout => exact openCount_le_one_of_imp hd id id id nofun
  | @receive v seq answer =>
    obtain ⟨hdetail, hupload, hconfirm⟩ := overlays_receive d v seq answer
    refine openCount_le_one_of_imp hd (by rw [hdetail]; exact id) (by rw [hupload]; exact id)
      (by rw [hconfirm]; exact id) ?_
    rcases receive_cases d v seq answer with ⟨hmenu, -⟩ | ⟨hmenu, -⟩
    · rw [hmenu]
      exact nofun
    · rw [hmenu]
      exact id
  | _ => exact hd

/-! ### The selected row -/

/-- Every move leaves a row selected that is shown, or the first one. -/
theorem Move.selectedRow_le {v : Resource}
    (hd : ∀ v, d.workspace.view = some v → d.selectedRow ≤ (d.rows v).length - 1)
    (h : Move o a i d d' es) (hv : d'.workspace.view = some v) :
    d'.selectedRow ≤ (d'.rows v).length - 1 := by
  -- a row is selected among those of the open view, and when they or the view change, so does it
  cases h with
  | selectRow hrow =>
    rcases hrow with hrow | ⟨w, hw, hrow⟩
    · exact hrow.trans (hd v hv)
    · obtain rfl : w = v := Option.some.inj (hw.symm.trans hv)
      exact Nat.le_sub_one_of_lt hrow
  | @typeSearch w input =>
    have hrows := rows_setList_of_rows_eq (d := d) (l := (d.list w).setInput input) rfl v
    exact (hd v hv).trans_eq (by rw [hrows])
  | request hl => exact (hd v hv).trans_eq (by rw [rows_setList_of_rows_eq hl.rows_eq])
  | openView => exact Nat.zero_le _
  | @receive w seq answer =>
    rw [(view_receive d w seq answer).1] at hv
    rcases receive_cases d w seq answer with ⟨-, hrow⟩ | ⟨-, hrow, hrows⟩
    · exact hrow v hv
    · rw [hrow, hrows v hv]
      exact hd v hv
  | logout => exact absurd ((Workspace.view_dispatch _ _).symm.trans hv) nofun
  | clearNotice => exact hd v ((Workspace.view_dispatch _ _).symm.trans hv)
  | toggleSidebar => exact hd v ((Workspace.view_dispatch _ _).symm.trans hv)
  | focus hc =>
    rcases hc with rfl | rfl | rfl <;> exact hd v ((Workspace.view_dispatch _ _).symm.trans hv)
  | _ => exact hd v hv

/-! ### The menu of a row -/

/-- A menu belongs to a row that is shown in the open view: it has the items of that row, and one of
them is highlighted. -/
def Fits (d : Desk) (m : OpenMenu) : Prop :=
  ∃ v caps r, d.workspace.view = some v ∧ d.capabilities = some caps ∧
    (d.rows v)[m.row]? = some r ∧ m.items = (r.actions caps).size ∧ m.highlighted < m.items

/-- The menu that is worked out for the open menu is that of the row that it belongs to. -/
theorem openMenu?_eq {m : OpenMenu} {v : Resource} {caps : Capabilities} {r : Record}
    (hm : d.menu = some m) (hv : d.workspace.view = some v) (hcaps : d.capabilities = some caps)
    (hr : (d.rows v)[m.row]? = some r) : d.openMenu? = some (m.row, r.actions caps) := by
  simp [openMenu?, hv, hcaps, hm, Dropdown.row?, hr]

/-- What leaves the open view, its rows and what the user may do there alone, leaves a menu at its
row. -/
theorem Fits.of_eq {m : OpenMenu} (h : d.Fits m) (hview : d'.workspace.view = d.workspace.view)
    (hcaps : d'.capabilities = d.capabilities)
    (hrows : ∀ v, d.workspace.view = some v → d'.rows v = d.rows v) : d'.Fits m := by
  obtain ⟨v, caps, r, hv, hc, hr, hm⟩ := h
  exact ⟨v, caps, r, hview.trans hv, hcaps.trans hc, by rwa [hrows v hv], hm⟩

/-- The menu that a toggle opens has its first item highlighted. -/
theorem eq_of_toggle {menu : Dropdown} {row : Nat} {items : ActionMenu RowAction}
    {button viewport : Rect} {metrics : MenuMetrics} {m : OpenMenu}
    (h : menu.toggle row items button viewport metrics = some m) :
    m.row = row ∧ m.items = items.size ∧ m.highlighted = 0 := by
  unfold Dropdown.toggle Dropdown.opening at h
  split at h
  · cases h
  · split at h
    · cases h
    · cases h
      exact ⟨rfl, rfl, rfl⟩

theorem size_pos {items : ActionMenu RowAction} (h : items.isEmpty = false) : 0 < items.size :=
  List.length_pos_iff.2 fun hnil ↦ by simp [ActionMenu.isEmpty, hnil] at h

/-- Every move leaves an open menu at a row that is shown, with the items of that row. -/
theorem Move.fits {m : OpenMenu} (hd : ∀ m, d.menu = some m → d.Fits m)
    (h : Move o a i d d' es) (hm : d'.menu = some m) : d'.Fits m := by
  -- a menu opens with all items of its row, and whatever changes the rows or the view closes it
  cases h with
  | @toggleMenu v row r caps button hfree hv hr hcaps hne =>
    obtain ⟨hrow, hitems, hhigh⟩ := eq_of_toggle hm
    exact ⟨v, caps, r, hv, hcaps, hrow ▸ hr, hitems, by rw [hhigh, hitems]; exact size_pos hne⟩
  | @highlight row menu delta hopen =>
    obtain ⟨n, hn, rfl⟩ := Option.map_eq_some_iff.1 hm
    obtain ⟨v, caps, r, hv, hcaps, hr, hitems, hhigh⟩ := hd n hn
    obtain rfl : menu = r.actions caps := by
      rw [openMenu?_eq hn hv hcaps hr] at hopen
      exact (Prod.mk.inj (Option.some.inj hopen)).2.symm
    refine ⟨v, caps, r, hv, hcaps, ?_⟩
    have hmoved : min (n.highlighted + delta).toNat ((r.actions caps).size - 1) < n.items := by
      omega
    split
    · exact ⟨hr, hitems, hhigh⟩
    · exact ⟨hr, hitems, hmoved⟩
  | @typeSearch w input =>
    exact (hd m hm).of_eq rfl rfl fun v _ ↦
      rows_setList_of_rows_eq (d := d) (l := (d.list w).setInput input) rfl v
  | request hl =>
    exact (hd m hm).of_eq rfl rfl fun v _ ↦ rows_setList_of_rows_eq hl.rows_eq v
  | @receive w seq answer =>
    obtain ⟨hview, hcaps⟩ := view_receive d w seq answer
    rcases receive_cases d w seq answer with ⟨hmenu, -⟩ | ⟨hmenu, -, hrows⟩
    · exact absurd (hmenu.symm.trans hm) nofun
    · exact (hd m (hmenu.symm.trans hm)).of_eq hview hcaps hrows
  | closeMenu => cases hm
  | toggleSidebar => cases hm
  | askUpload => cases hm
  | askDelete => cases hm
  | openView => cases hm
  | logout => cases hm
  | clearNotice =>
    exact (hd m hm).of_eq (Workspace.view_dispatch _ _) rfl fun _ _ ↦ rfl
  | focus hc =>
    rcases hc with rfl | rfl | rfl <;>
      exact (hd m hm).of_eq (Workspace.view_dispatch _ _) rfl fun _ _ ↦ rfl
  | _ => exact hd m hm

/-! ### The sidebar -/

/-- An answer collapses nothing. -/
theorem collapsed_receive (d : Desk) (v : Resource) (seq : UInt64)
    (answer : Except String (Page Record)) :
    (d.receive v seq answer).desk.sidebar = d.sidebar ∧
      (d.receive v seq answer).desk.workspace.sidebarCollapsed = d.workspace.sidebarCollapsed := by
  obtain ⟨row, menu, notice, token, hreceive⟩ := exists_receive_eq d v seq answer
  rw [hreceive]
  exact ⟨rfl, rfl⟩

/-- Every move hides the sidebar exactly if the screen is laid out for that. -/
theorem Move.sidebarCollapsed_eq (hd : d.workspace.sidebarCollapsed = d.sidebar.collapsed)
    (h : Move o a i d d' es) : d'.workspace.sidebarCollapsed = d'.sidebar.collapsed := by
  -- one move collapses the sidebar for both, and commands for other things collapse nothing
  cases h with
  | toggleSidebar => exact Workspace.sidebarCollapsed_dispatch _ _
  | moveInSidebar hmenu hcollapsed => exact hd.trans hcollapsed.symm
  | openView => exact (Workspace.sidebarCollapsed_dispatch _ _).trans hd
  | logout => exact (Workspace.sidebarCollapsed_dispatch _ _).trans hd
  | clearNotice => exact (Workspace.sidebarCollapsed_dispatch _ _).trans hd
  | focus hc =>
    rcases hc with rfl | rfl | rfl <;> exact (Workspace.sidebarCollapsed_dispatch _ _).trans hd
  | @receive w seq answer =>
    obtain ⟨hsidebar, hcollapsed⟩ := collapsed_receive d w seq answer
    rw [hsidebar, hcollapsed, hd]
  | _ => exact hd

/-! ### Desks in order -/

/-- A desk on which nothing refers to what is not there. -/
structure Tidy (d : Desk) : Prop where
  openCount : d.openCount ≤ 1
  selectedRow : ∀ v, d.workspace.view = some v → d.selectedRow ≤ (d.rows v).length - 1
  menu : ∀ m, d.menu = some m → d.Fits m
  collapsed : d.workspace.sidebarCollapsed = d.sidebar.collapsed

/-- A desk in order is in order after every move. -/
theorem Tidy.move (hd : d.Tidy) (h : Move o a i d d' es) : d'.Tidy where
  openCount := h.openCount_le_one hd.openCount
  selectedRow _ := h.selectedRow_le hd.selectedRow
  menu _ := h.fits hd.menu
  collapsed := h.sidebarCollapsed_eq hd.collapsed

theorem tidy_new (w : Workspace) (menu : Menu.Resolved) (pageSize : UInt32) :
    (new w (.ofMenu menu.forest w.sidebarCollapsed) pageSize).Tidy where
  openCount := by simp [Desk.openCount, new]
  selectedRow _ _ := Nat.zero_le _
  menu _ h := by cases h
  collapsed := rfl

/-- Choosing from the open menu with the enter key does what the highlighted item says. -/
theorem Tidy.key_enter {m : OpenMenu} {menu : ActionMenu RowAction} {item : ActionItem RowAction}
    (hd : d.Tidy) (hm : d.menu = some m) (hopen : d.openMenu? = some (m.row, menu))
    (hitem : menu.items[m.highlighted]? = some item) {k : Key} (hk : k.code = .enter) :
    d.key o a k = d.closeMenu.runAction m.row item.action := by
  have hoverlay : d.overlay = none :=
    List.getLast?_eq_none_iff.2 (overlays_eq_nil_of_menu hd.openCount hm)
  simp [key, hk, hoverlay, hm, menuKey, hopen, chooseItem, Dropdown.select?, hitem]

/-- **A desk is always in order.** At every point of a session, whatever has happened in it:
1. at most one of the details of a row, the question for a file, the question whether to delete a
   row and the menu of a row is open;
2. the selected row is one of those that are shown in the open view; if none are, it is the first;
3. an open menu belongs to a row that is shown in the open view, has noted how many items that row
   has, which is at least one, and highlights one of them; so there is a menu to choose from, and
   the enter key does what the highlighted item says;
4. the sidebar is collapsed exactly if the screen is laid out for that. -/
theorem Opening.tidy (s : Opening) (o : Oracle) (xs : List Occasion) :
    let d := s.after o xs
    [d.detail.isSome, d.upload.isSome, d.confirm.isSome, d.menu.isSome].count true ≤ 1 ∧
    (∀ v, d.workspace.view = some v →
      (d.rows v = [] → d.selectedRow = 0) ∧
        (d.rows v ≠ [] → d.selectedRow < (d.rows v).length)) ∧
    (∀ m, d.menu = some m →
      ∃ v caps r item, d.workspace.view = some v ∧ d.capabilities = some caps ∧
        m.row < (d.rows v).length ∧ (d.rows v)[m.row]? = some r ∧
        m.items = (r.actions caps).size ∧ 0 < m.items ∧ m.highlighted < m.items ∧
        d.openMenu? = some (m.row, r.actions caps) ∧
        (r.actions caps).items[m.highlighted]? = some item ∧
        ∀ a k, k.code = .enter →
          d.step o a (.key k) = d.closeMenu.runAction m.row item.action) ∧
    d.workspace.sidebarCollapsed = d.sidebar.collapsed := by
  intro d
  have hd : d.Tidy := s.induction xs tidy_new fun hd h ↦ hd.move h
  refine ⟨hd.openCount, fun v hv ↦ ⟨fun hrows ↦ ?_, fun hrows ↦ ?_⟩, fun m hm ↦ ?_, hd.collapsed⟩
  · have hrow := hd.selectedRow v hv
    rwa [hrows, List.length_nil, Nat.zero_sub, Nat.le_zero] at hrow
  · have hrow := hd.selectedRow v hv
    have hlength := List.length_pos_iff.2 hrows
    omega
  · obtain ⟨v, caps, r, hv, hcaps, hr, hitems, hhigh⟩ := hd.menu m hm
    have hopen := openMenu?_eq hm hv hcaps hr
    have hlt : m.highlighted < (r.actions caps).items.length := hhigh.trans_eq hitems
    have hitem := List.getElem?_eq_getElem hlt
    exact ⟨v, caps, r, _, hv, hcaps, (List.getElem?_eq_some_iff.1 hr).1, hr, hitems,
      Nat.zero_lt_of_lt hhigh, hhigh, hopen, hitem, fun a k hk ↦ hd.key_enter hm hopen hitem hk⟩

/-- The second item of an event's menu is highlighted, and the enter key does what it says. -/
theorem Opening.highlighted_item_is_chosen :
    ∃ m action, (sampleOpening.after sampleOracle sampleChoice).menu = some m ∧
      m.row = 0 ∧ m.items = 2 ∧ m.highlighted = 1 ∧
      ∀ a k, k.code = .enter →
        (sampleOpening.after sampleOracle sampleChoice).step sampleOracle a (.key k) =
          (sampleOpening.after sampleOracle sampleChoice).closeMenu.runAction 0 action := by
  have hopen : (sampleOpening.after sampleOracle sampleChoice).menu.map
      (fun m ↦ (m.row, m.items, m.highlighted)) = some (0, 2, 1) := by rfl
  obtain ⟨m, hm, hfields⟩ := Option.map_eq_some_iff.1 hopen
  obtain ⟨hrow, hitems, hhigh⟩ : m.row = 0 ∧ m.items = 2 ∧ m.highlighted = 1 := by
    simpa using hfields
  obtain ⟨-, -, hmenu, -⟩ := sampleOpening.tidy sampleOracle sampleChoice
  obtain ⟨v, caps, r, item, -, -, -, -, -, -, -, -, -, henter⟩ := hmenu m hm
  rw [hrow] at henter
  exact ⟨m, item.action, hm, hrow, hitems, hhigh, henter⟩

end PitchDesk.Desk
