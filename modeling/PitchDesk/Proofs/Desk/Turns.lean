import PitchDesk.Proofs.Desk.Moves
import PitchDesk.Proofs.Workspace

/-!
# Turns consist of moves

Handler by handler it is shown that a turn comes about by moves: first what lies over the screen
and the menu of a row, then the parts of the screen that keys go to, the mouse, and what comes from
outside. `makes_step` and `makes_start` put them together.

## Hypotheses

A handler that is called only while nothing lies over the screen, or while no menu is open, takes
that as a hypothesis, since the guards of moves depend on it: a detail is opened only over a free
screen, and an item is chosen only from the menu that is open. `makes_key` and `makes_press`
discharge these hypotheses from the order in which keys and presses are looked up. Most handlers
make the same moves whatever led to them, and their lemmas leave the input open; the lemmas of
those that confirm or choose something name the key or the press, because the moves for it do.

## Changes to a row

Deleting a row and uploading a file both ask the outside for something and then tell what came of
it. `report` is the second half of either, so that one lemma on it serves both;
`deleteRow_eq_andThen` and `submitUpload_of_ok` cut the handlers there.
-/

namespace PitchDesk

/-- The file that a question for one names. -/
def UploadPrompt.file (a : Answers) (p : UploadPrompt) : Upload :=
  ⟨Text.trim p.path, p.title, a.fileSize (Text.trim p.path)⟩

namespace Desk

variable {o : Oracle} {a : Answers} {i : Option Input} {d : Desk}

/-! ### What lies over the screen -/

theorem overlays_eq_nil (h : d.overlay = none) : d.overlays = [] :=
  List.getLast?_eq_none_iff.1 h

/-- A question whether to delete a row lies on top only if it is open. -/
theorem confirm_of_overlay {p : PendingDelete} (h : d.overlay = some (.confirm p)) :
    d.confirm = some p := by
  unfold overlay overlays at h
  cases hc : d.confirm <;> cases hu : d.upload <;> cases hd : d.detail <;> simp_all

theorem upload_of_overlay {p : UploadPrompt} (h : d.overlay = some (.upload p)) :
    d.upload = some p := by
  unfold overlay overlays at h
  cases hc : d.confirm <;> cases hu : d.upload <;> cases hd : d.detail <;> simp_all

/-- Tells what came of a change to a row of a view. If it was made, the current page of the view is
asked for again. -/
def report (a : Answers) (d : Desk) (v : Resource) (answer : Except Failure Unit)
    (success failure : String) : Turn :=
  match answer with
  | .ok _ => (d.notify .success success).andThen (refetch a · v)
  | .error e => d.notify .error (failure ++ e.full)

/-- Telling what came of a change takes a notice, and a request if the change was made. -/
theorem makes_report (d : Desk) (v : Resource) (answer : Except Failure Unit)
    (success failure : String) : Makes o a i d (d.report a v answer success failure) := by
  cases answer with
  | ok _ => exact (makes_notify _ _ _).andThen (makes_refetch _ _)
  | error e => exact makes_notify _ _ _

/-- A row is deleted by asking the outside for it and telling what came of it. -/
theorem deleteRow_eq_andThen (a : Answers) (d : Desk) (p : PendingDelete) :
    deleteRow a d p = Turn.andThen ⟨d, [.delete p.view p.id], false⟩
      (·.report a p.view a.delete ("deleted " ++ p.title) "delete failed: ") := by
  unfold deleteRow report
  cases a.delete <;> rfl

/-- A key at the question whether to delete a row deletes it, takes the question away, or does
nothing. -/
theorem makes_confirmKey {p : PendingDelete} (hp : d.confirm = some p) (k : Key) :
    Makes o a (some (.key k)) d (d.confirmKey a p k) := by
  have hdelete (hk : k.code = .char 'y' ∨ k.code = .char 'Y') :
      Makes o a (some (.key k)) d (deleteRow a { d with confirm := none } p) := by
    have hasked : Makes o a (some (.key k)) d
        ⟨{ d with confirm := none }, [.delete p.view p.id], false⟩ := (Move.delete hp rfl hk).moves
    rw [deleteRow_eq_andThen]
    exact hasked.andThen (makes_report _ _ _ _ _)
  unfold confirmKey
  split
  · exact hdelete (.inl ‹_›)
  · exact hdelete (.inr ‹_›)
  · exact Move.cancelDelete.moves
  · exact Move.cancelDelete.moves
  · exact Move.cancelDelete.moves
  · exact makes_idle d

/-- A file that fails its check is not uploaded; a notice says what is wrong with it. -/
theorem submitUpload_of_error {p : UploadPrompt} {cause : FormError}
    (hu : (p.file a).check a.maxUploadBytes = .error cause) :
    submitUpload a d p = d.notify .error cause.message := by
  unfold UploadPrompt.file at hu
  dsimp only [submitUpload]
  rw [hu]

/-- A file that passes its check is uploaded, and what came of it is told. -/
theorem submitUpload_of_ok {p : UploadPrompt}
    (hu : (p.file a).check a.maxUploadBytes = .ok ()) :
    submitUpload a d p = Turn.andThen ⟨d, [.upload p.view p.id (p.file a)], false⟩
      (·.report a p.view a.upload ("uploaded " ++ (p.file a).fileName ++ " to " ++ p.title)
        "upload failed: ") := by
  unfold UploadPrompt.file at hu
  dsimp only [submitUpload]
  rw [hu]
  unfold report
  cases a.upload <;> rfl

/-- The enter key at the question for a file takes the question away, whether or not the file is
uploaded then. -/
theorem makes_submitUpload {p : UploadPrompt} {k : Key} (hp : d.upload = some p)
    (hk : k.code = .enter) :
    Makes o a (some (.key k)) d (submitUpload a { d with upload := none } p) := by
  cases hu : (p.file a).check a.maxUploadBytes with
  | error cause =>
    rw [submitUpload_of_error hu]
    exact Moves.cons .cancelUpload (makes_notify _ _ _)
  | ok _ =>
    have hasked : Makes o a (some (.key k)) d
        ⟨{ d with upload := none }, [.upload p.view p.id (p.file a)], false⟩ :=
      (Move.upload hp rfl hk rfl rfl hu).moves
    rw [submitUpload_of_ok hu]
    exact hasked.andThen (makes_report _ _ _ _ _)

/-- A key at the question for a file writes its path, submits it or takes the question away. -/
theorem makes_uploadKey {p : UploadPrompt} (hp : d.upload = some p) (k : Key) :
    Makes o a (some (.key k)) d (d.uploadKey a p k) := by
  have htype (text : List Char) :
      Makes o a (some (.key k)) d
        (idle { d with upload := some { p with path := String.ofList text } }) :=
    (Move.typePath (String.ofList text) hp).moves
  dsimp only [uploadKey]
  split
  · exact Move.cancelUpload.moves
  · exact htype p.path.toList.dropLast
  · exact makes_submitUpload hp ‹_›
  · split
    · exact htype (p.path.toList ++ [_])
    · exact makes_idle d

theorem makes_detailKey (d : Desk) (k : Key) : Makes o a i d (d.detailKey k) := by
  unfold detailKey
  split
  · exact Move.closeDetail.moves
  · exact Move.closeDetail.moves
  · exact Move.closeDetail.moves
  · exact makes_idle d

/-- The detail of a row is opened if the list of the open view has such a row. -/
theorem makes_openDetail {v : Resource} (hfree : d.overlays = []) (hmenu : d.menu = none)
    (hv : d.workspace.view = some v) (row : Nat) : Makes o a i d (d.openDetail v row).idle := by
  unfold openDetail
  split
  · exact (Move.openDetail hfree hmenu hv ‹_›).moves
  · exact makes_idle d

/-! ### The menu of a row -/

/-- The open menu is that of a row that is shown in the open view. -/
theorem openMenu?_eq_some {row : Nat} {menu : ActionMenu RowAction}
    (h : d.openMenu? = some (row, menu)) :
    ∃ v caps r, d.workspace.view = some v ∧ d.capabilities = some caps ∧
      d.menu.row? = some row ∧ (d.rows v)[row]? = some r ∧ menu = r.actions caps := by
  simp only [openMenu?, Option.bind_eq_bind, Option.bind_eq_some_iff, Option.pure_def,
    Option.some.injEq, Prod.mk.injEq] at h
  obtain ⟨v, hv, caps, hcaps, row', hrow, r, hr, rfl, hmenu⟩ := h
  exact ⟨v, caps, r, hv, hcaps, hrow, hr, hmenu.symm⟩

theorem makes_toggleMenu {v : Resource} (hfree : d.overlays = [])
    (hv : d.workspace.view = some v) (row : Nat) : Makes o a i d (d.toggleMenu v row) := by
  dsimp only [toggleMenu]
  split
  · rename_i caps r hcaps hr
    cases hne : (r.actions caps).isEmpty with
    | true => exact makes_notify _ _ _
    | false => exact (Move.toggleMenu _ hfree hv hr hcaps hne).moves
  · exact makes_idle d

/-- Choosing an item closes the menu; if it asks something, the item is one of the row's menu. -/
theorem makes_chooseItem {row item : Nat} {menu : ActionMenu RowAction} (hfree : d.overlays = [])
    (hopen : d.openMenu? = some (row, menu)) (hitem : i.bind d.chosenItem? = some item) :
    Makes o a i d (d.chooseItem row menu item) := by
  obtain ⟨v, caps, r, hv, -, -, hr, -⟩ := openMenu?_eq_some hopen
  have hclosed : Makes o a i d d.closeMenu.idle := Move.closeMenu.moves
  unfold chooseItem
  cases hselect : d.menu.select? menu item with
  | none => exact hclosed
  | some action =>
    have hchosen : i.bind d.chosen? = some action := by
      obtain ⟨j, rfl, hj⟩ := Option.bind_eq_some_iff.1 hitem
      simp [chosen?, hopen, hj, hselect]
    have hv' : d.closeMenu.workspace.view = some v := hv
    have hr' : (d.closeMenu.rows v)[row]? = some r := hr
    simp only [runAction, hv', hr']
    cases action with
    | view => exact Moves.cons .closeMenu (makes_openDetail (d := d.closeMenu) hfree rfl hv row)
    | delete =>
      cases hid : r.id? with
      | some id => exact (Move.askDelete hfree hv hopen hchosen hr hid).moves
      | none => exact Moves.cons .closeMenu (makes_notify _ _ _)
    | uploadDocument =>
      cases hid : r.id? with
      | some id => exact (Move.askUpload hfree hv hopen hchosen hr hid).moves
      | none => exact Moves.cons .closeMenu (makes_notify _ _ _)
    | edit => exact Moves.cons .closeMenu (makes_notify _ _ _)
    | shortlist => exact Moves.cons .closeMenu (makes_notify _ _ _)
    | markWinner => exact Moves.cons .closeMenu (makes_notify _ _ _)
    | exportRow => exact Moves.cons .closeMenu (makes_notify _ _ _)

/-- The enter key chooses the highlighted item of the open menu. -/
theorem chosenItem?_enter {row : Nat} {menu : ActionMenu RowAction} {k : Key}
    (hopen : d.openMenu? = some (row, menu)) (hk : k.code = .enter) :
    d.chosenItem? (.key k) = some ((d.menu.map (·.highlighted)).getD 0) := by
  obtain ⟨-, -, -, -, -, hrow, -, -⟩ := openMenu?_eq_some hopen
  obtain ⟨m, hm, -⟩ := Option.map_eq_some_iff.1 hrow
  simp [chosenItem?, hk, hm]

theorem makes_menuKey (hfree : d.overlays = []) (k : Key) :
    Makes o a (some (.key k)) d (d.menuKey k) := by
  unfold menuKey
  split
  · exact Move.closeMenu.moves
  · rename_i row menu hopen
    split
    · exact Move.closeMenu.moves
    · exact (Move.highlight 1 hopen).moves
    · exact (Move.highlight 1 hopen).moves
    · exact (Move.highlight (-1) hopen).moves
    · exact (Move.highlight (-1) hopen).moves
    · exact makes_chooseItem hfree hopen (chosenItem?_enter hopen ‹_›)
    · exact makes_idle d

/-! ### The sidebar, the search field and the table -/

theorem makes_toggleExpanded (d : Desk) :
    Makes o a i d (idle { d with sidebar := d.sidebar.toggleExpanded?.getD d.sidebar }) := by
  refine (Move.moveInSidebar ?_ ?_).moves
  all_goals
    unfold Sidebar.toggleExpanded?
    split
    · split <;> rfl
    · rfl

/-- Activating the line of the cursor opens its view, folds its group, or tells that there is no
view. -/
theorem makes_activateEntry (d : Desk) : Makes o a i d (d.activateEntry o a) := by
  unfold activateEntry
  split
  · exact makes_idle d
  · split
    · exact makes_toggleExpanded d
    · split
      · exact makes_switchView d _
      · exact makes_notify _ _ _

theorem makes_moveCursor (d : Desk) (delta : Int) :
    Makes o a i d (idle { d with sidebar := d.sidebar.moveCursor delta }) :=
  (Move.moveInSidebar (s := d.sidebar.moveCursor delta) rfl rfl).moves

/-- Keys that go to the sidebar move its cursor, fold a group or open a view. -/
theorem makes_sidebarKey (d : Desk) (k : Key) : Makes o a i d (d.sidebarKey o a k) := by
  unfold sidebarKey
  split
  · exact makes_idle d
  · exact makes_moveCursor d 1
  · exact makes_moveCursor d 1
  · exact makes_moveCursor d (-1)
  · exact makes_moveCursor d (-1)
  · exact makes_toggleExpanded d
  · exact makes_toggleExpanded d
  · exact makes_toggleExpanded d
  · exact makes_activateEntry d
  · exact makes_activateEntry d
  · exact makes_activateEntry d
  · exact makes_idle d

theorem makes_searchKey (d : Desk) (k : Key) : Makes o a i d (d.searchKey a k) := by
  unfold searchKey
  split
  · exact (Move.focus (.inl rfl)).moves
  · split
    · rename_i v key hv _
      rcases (d.list v).typeKey_cases key with ⟨hasks, hl⟩ | ⟨input, hl⟩
      · rw [show (d.list v).typeKey key = (((d.list v).typeKey key).1, true) from
          Prod.ext rfl hasks]
        exact makes_ask hl
      · rw [hl]
        exact (Move.typeSearch input hv).moves
    · exact makes_idle d

/-- A page that can be gone to is asked for; else nothing happens. -/
theorem makes_turnPage (d : Desk) (v : Resource) (page : UInt32) :
    Makes o a i d (d.turnPage a v ((d.list v).goToPage? page)) := by
  cases h : (d.list v).goToPage? page with
  | none => exact makes_idle d
  | some l => exact makes_ask (Listing.asks_of_goToPage? h)

/-- Keys that go to the table of a view select a row, turn pages, or open a detail or a menu. -/
theorem makes_viewKey {v : Resource} (hfree : d.overlays = []) (hmenu : d.menu = none)
    (hv : d.workspace.view = some v) (k : Key) : Makes o a i d (d.viewKey a v k) := by
  have hdown : Makes o a i d
      (if d.selectedRow + 1 < (d.rows v).length then
        idle { d with selectedRow := d.selectedRow + 1 }
      else d.idle) := by
    split
    · exact (Move.selectRow (.inr ⟨v, hv, ‹_›⟩)).moves
    · exact makes_idle d
  have hup : Makes o a i d (idle { d with selectedRow := d.selectedRow - 1 }) :=
    (Move.selectRow (.inl (Nat.sub_le _ _))).moves
  unfold viewKey
  split
  · exact hdown
  · exact hdown
  · exact hup
  · exact hup
  · exact makes_turnPage d v _
  · exact makes_turnPage d v _
  · exact makes_turnPage d v _
  · exact makes_turnPage d v _
  · exact makes_ask (d.list v).asks_reset
  · exact makes_ask (d.list v).asks_refresh
  · split
    · exact makes_openDetail hfree hmenu hv _
    · exact makes_idle d
  · exact makes_toggleMenu hfree hv _
  · exact makes_toggleMenu hfree hv _
  · exact makes_idle d

/-- Keys that go to the table leave the program, go on to the search field, or are for the open
view. -/
theorem makes_tableKey (hfree : d.overlays = []) (hmenu : d.menu = none) (k : Key) :
    Makes o a i d (d.tableKey a k) := by
  unfold tableKey
  split
  · exact makes_idle d
  · split
    · exact (Move.focus (.inr (.inr rfl))).moves
    · split
      · exact makes_viewKey hfree hmenu ‹_› k
      · exact makes_idle d

/-- Toggled unless it is as it should be, a sidebar is as it should be. -/
theorem ite_toggleCollapsed (s : Sidebar) (collapsed : Bool) :
    (if s.collapsed = collapsed then s else s.toggleCollapsed) =
      { s with collapsed := collapsed } := by
  by_cases h : s.collapsed = collapsed
  · rw [if_pos h, ← h]
  · rw [if_neg h, Sidebar.toggleCollapsed, Bool.eq_not_of_ne h, Bool.not_not]

/-- Hiding the sidebar or bringing it back closes the menu, and a failure to remember it is told. -/
theorem makes_toggleSidebar (d : Desk) : Makes o a i d (d.toggleSidebar a) := by
  have hcollapsed : (d.dispatch .toggleSidebar).workspace.sidebarCollapsed =
      !d.workspace.sidebarCollapsed := Workspace.sidebarCollapsed_dispatch _ _
  have hasked : Makes o a i d ⟨_, _, false⟩ := Move.toggleSidebar.moves
  dsimp only [toggleSidebar]
  rw [hcollapsed, ite_toggleCollapsed]
  cases a.saveCollapsed with
  | ok _ => exact hasked
  | error e => exact hasked.andThen (makes_notify _ _ _)

/-! ### Keys -/

/-- Keys that no overlay and no menu takes go to the part of the screen that has the focus. -/
theorem makes_freeKey (hfree : d.overlays = []) (hmenu : d.menu = none) (k : Key) :
    Makes o a i d (d.freeKey o a k) := by
  unfold freeKey
  split
  · exact (Move.focus (.inl rfl)).moves
  · split
    · exact (Move.focus (.inr (.inl rfl))).moves
    · split
      · exact makes_toggleSidebar d
      · split
        · exact Move.logout.moves
        · split
          · exact makes_sidebarKey d k
          · exact makes_searchKey d k
          · exact makes_tableKey hfree hmenu k

/-- A key goes to the overlay on top, else to the open menu, else to the screen. -/
theorem makes_key (d : Desk) (k : Key) : Makes o a (some (.key k)) d (d.key o a k) := by
  unfold key
  split
  · exact makes_idle d
  · -- once nothing lies over the screen and no menu is open, the guards of all other moves hold
    split
    · exact makes_confirmKey (confirm_of_overlay ‹_›) k
    · exact makes_uploadKey (upload_of_overlay ‹_›) k
    · exact makes_detailKey d k
    · have hfree := overlays_eq_nil ‹d.overlay = none›
      cases hmenu : d.menu with
      | some m => exact makes_menuKey hfree k
      | none => exact makes_freeKey hfree hmenu k

/-! ### The mouse -/

/-- A press in the sidebar activates the line that it is on. -/
theorem makes_pressSidebar (d : Desk) (area : Area) (row : Nat) :
    Makes o a i d (d.pressSidebar o a area row) := by
  have hmoved := makes_moveCursor (o := o) (a := a) (i := i) d
    (((row - area.y - 1 : Nat) : Int) - d.sidebar.cursor)
  dsimp only [pressSidebar]
  split
  · exact makes_idle d
  · split
    · exact hmoved.append (makes_activateEntry _)
    · exact hmoved

/-- A press on an item of the open menu chooses it, if the row of the menu is still there. -/
theorem pressTable_actionItem {row : Nat} (hrow : d.menu.row? = some row) (v : Resource)
    (item : Nat) :
    d.pressTable v (.actionItem row item) = d.idle ∨
      ∃ menu, d.openMenu? = some (row, menu) ∧
        d.pressTable v (.actionItem row item) = d.chooseItem row menu item := by
  by_cases hlt : row < (d.rows v).length
  · simp only [pressTable, TableSpec.click?, if_pos hlt]
    cases hopen : d.openMenu? with
    | none => exact .inl rfl
    | some x =>
      obtain ⟨-, -, -, -, -, hrow', -, -⟩ := openMenu?_eq_some hopen
      exact .inr ⟨x.2, by rw [← Option.some.inj (hrow'.symm.trans hrow)], rfl⟩
  · exact .inl (by simp only [pressTable, TableSpec.click?, if_neg hlt])

/-- A press in the table is on the open menu, or no menu is open any more, or it is on the button of
a row. -/
theorem makes_pressTable {v : Resource} {target : ClickTarget} (hfree : d.overlays = [])
    (hv : d.workspace.view = some v) (hmenu : target.keepsMenu = false → d.menu = none)
    (htarget : ∀ row item, target = .actionItem row item →
      d.menu.row? = some row ∧ i.bind d.chosenItem? = some item) :
    Makes o a i d (d.pressTable v target) := by
  have hselect {row : Nat} (hrow : row < (d.rows v).length) :
      Makes o a i d (idle { d with selectedRow := row }) :=
    (Move.selectRow (.inr ⟨v, hv, hrow⟩)).moves
  -- only what is in the rows means anything, so each target is split on whether its row is there
  cases target with
  | header => exact makes_idle d
  | outside => exact makes_idle d
  | actionMenu row => exact makes_idle d
  | rowBody row =>
    -- a press on a row is beside the menu, which is closed by now
    have hclosed : d.menu = none := hmenu rfl
    cases hr : (d.rows v)[row]? with
    | none =>
      have hrow : ¬row < (d.rows v).length := not_lt.2 (List.getElem?_eq_none_iff.1 hr)
      simp only [pressTable, TableSpec.click?, hr, Option.map_none, ite_self, if_neg hrow]
      exact makes_idle d
    | some r =>
      have hrow := (List.getElem?_eq_some_iff.1 hr).1
      by_cases hopens : v.table.rowClick
      · simp only [pressTable, TableSpec.click?, hr, Option.map_some, if_pos hopens]
        exact (hselect hrow).append
          (makes_openDetail (d := { d with selectedRow := row }) hfree hclosed hv row)
      · simp only [pressTable, TableSpec.click?, if_neg hopens, if_pos hrow]
        exact hselect hrow
  | actionTrigger row =>
    by_cases hrow : row < (d.rows v).length
    · simp only [pressTable, TableSpec.click?, if_pos hrow]
      exact (hselect hrow).append
        (makes_toggleMenu (d := { d with selectedRow := row }) hfree hv row)
    · simp only [pressTable, TableSpec.click?, if_neg hrow]
      exact makes_idle d
  | actionItem row item =>
    obtain ⟨hrow, hitem⟩ := htarget row item rfl
    rcases pressTable_actionItem hrow v item with hidle | ⟨menu, hopen, hchoose⟩
    · rw [hidle]
      exact makes_idle d
    · rw [hchoose]
      exact makes_chooseItem hfree hopen hitem

/-- An item that is pressed belongs to the row whose menu is open. -/
theorem row?_of_target {t : TableAreas} {menu : Dropdown} {column row r item : Nat}
    (h : t.target menu column row = .actionItem r item) : menu.row? = some r := by
  have hbelow : t.targetBelow column row ≠ .actionItem r item := by
    unfold TableAreas.targetBelow
    split
    · split
      · exact nofun
      · split <;> exact nofun
    · split <;> exact nofun
  unfold TableAreas.target at h
  split at h
  · rename_i m
    split at h
    · split at h
      · cases h
        rfl
      · cases h
    · exact absurd h hbelow
  · exact absurd h hbelow

/-- A press does nothing under an overlay; else it may close the menu, and goes to what it is on. -/
theorem makes_press (d : Desk) (column row : Nat) :
    Makes o a (some (.mouse (.press column row))) d (d.press o a column row) := by
  dsimp only [press]
  split
  · exact makes_idle d
  · rename_i hoverlay
    have hfree := overlays_eq_nil (Option.not_isSome_iff_eq_none.1 hoverlay)
    generalize htarget : (TableAreas.ofPane d.panes.table).target d.menu column row = target
    have hitem (r item : Nat) (h : target = .actionItem r item) :
        d.menu.row? = some r ∧ d.chosenItem? (.mouse (.press column row)) = some item :=
      ⟨row?_of_target (htarget.trans h), by simp [chosenItem?, htarget, h]⟩
    -- a press that keeps the menu is met by the desk as it is, any other by one without a menu
    cases hkeeps : target.keepsMenu with
    | true =>
      simp only [if_true]
      split
      · exact makes_pressSidebar d _ row
      · exact makes_pressTable hfree ‹_› (by simp [hkeeps]) hitem
      · exact makes_idle d
    | false =>
      have hclosed : Makes o a (some (.mouse (.press column row))) d d.closeMenu.idle :=
        Move.closeMenu.moves
      simp only [Bool.false_eq_true, if_false]
      split
      · exact hclosed.append (makes_pressSidebar d.closeMenu _ row)
      · refine hclosed.append (makes_pressTable (d := d.closeMenu) hfree ‹_› (fun _ ↦ rfl) ?_)
        rintro r item rfl
        cases hkeeps
      · exact hclosed

theorem makes_mouse (d : Desk) (m : MouseAction) :
    Makes o a (some (.mouse m)) d (d.mouse o a m) := by
  cases m with
  | press column row => exact makes_press d column row
  | scroll => exact Move.closeMenu.moves
  | other => exact makes_idle d

/-! ### Turns and starts -/

/-- Answers are taken by the list of their view, and a notice whose time is over goes away. -/
theorem makes_hear (d : Desk) (n : News) : Makes o a (some (.news n)) d (d.hear n) := by
  cases n with
  | noticeOver token =>
    show Makes o a _ d (if token = d.noticeToken then (d.dispatch .clearNotice).idle else d.idle)
    by_cases htoken : token = d.noticeToken
    · rw [if_pos htoken, htoken]
      exact (Move.clearNotice rfl).moves
    · rw [if_neg htoken]
      exact makes_idle d
  | loaded v seq answer => exact (Move.receive rfl).moves

/-- **Every turn consists of moves.** -/
theorem makes_step (d : Desk) (i : Input) : Makes o a (some i) d (d.step o a i) := by
  cases i with
  | key k => exact makes_key d k
  | mouse m => exact makes_mouse d m
  | news n => exact makes_hear d n
  | resized => exact Move.closeMenu.moves
  | measured width height => exact (Move.measured width height).moves

theorem makes_greet (d : Desk) (source : Menu.Source) :
    Makes o a none d (d.greet source) := by
  unfold greet
  split
  · exact makes_notify _ _ _
  · split
    · exact (Move.remind rfl ‹_›).moves
    · exact makes_idle d

/-- A session opens the first view of its menu that the user may see, if there is one. -/
theorem makes_openFirst (d : Desk) : Makes o a i d (openFirst o a d) := by
  unfold openFirst
  split
  · rename_i v _
    have hpointed : Makes o a i d
        (idle { d with sidebar := (d.sidebar.selectView? v).getD d.sidebar }) := by
      unfold Sidebar.selectView?
      refine (Move.moveInSidebar ?_ ?_).moves <;>
        cases d.sidebar.visible.findIdx? fun e ↦ e.view? == some v <;> rfl
    exact hpointed.append (makes_switchView _ v)
  · exact makes_notify _ _ _

/-- **A session starts with moves on a new desk.** -/
theorem makes_start (w : Workspace) (menu : Menu.Resolved) (pageSize : UInt32) :
    Makes o a none (new w (.ofMenu menu.forest w.sidebarCollapsed) pageSize)
      (start o a w menu pageSize) :=
  (makes_greet _ menu.source).andThen (makes_openFirst _)

end Desk

end PitchDesk
