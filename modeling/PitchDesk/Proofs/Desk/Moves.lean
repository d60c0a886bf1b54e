import PitchDesk.Desk.Mouse
import PitchDesk.Desk.News
import PitchDesk.Desk.Start
import PitchDesk.Proofs.Listing.Requests

/-!
# What a turn can do

A turn on the desk goes through handlers that call each other. Whatever way it takes, it consists
of a few kinds of moves, each of which changes little and says under what circumstances it is made:
`Move`. What holds along all turns can then be shown by going through the kinds of moves. That
requests are sent and views are opened by such moves is shown here, and for all other handlers in
`PitchDesk.Proofs.Desk.Turns`.

## Why moves, and not handlers

A handler is cut by the way a key is looked up: the same change of the desk is made by several of
them, and one of them makes many changes. An invariant that went through the handlers would say the
same thing again for every key that closes the menu. A move is cut by what changes, and its guard
stands next to the change: `Move.delete` knows the question that was open and the key that
confirmed it, `Move.openView` that the user may see the view. Where a property needs such a guard,
it finds it in the move and need not follow the handler again.

Guards say what later properties need and not all that the handlers check. A move that no handler
made would cost nothing but a case in each proof.
-/

namespace PitchDesk.Desk

/-- What happens to a desk. -/
inductive Input where
  | key (k : Key)
  | mouse (m : MouseAction)
  | news (n : News)
  /-- The terminal tells that its size is another now. -/
  | resized
  /-- The size of the terminal is read. -/
  | measured (width height : Nat)

/-- The turn that something leads to. -/
def step (o : Oracle) (a : Answers) (d : Desk) : Input → Turn
  | .key k => d.key o a k
  | .mouse m => d.mouse o a m
  | .news n => d.hear n
  | .resized => d.closeMenu.idle
  | .measured width height => (d.resize width height).idle

/-- The item of the open menu that something is to choose: the enter key chooses the highlighted
one, and a press the one that it is on. -/
def chosenItem? (d : Desk) : Input → Option Nat
  | .key k => if k.code = .enter then d.menu.map (·.highlighted) else none
  | .mouse (.press column row) =>
    match (TableAreas.ofPane d.panes.table).target d.menu column row with
    | .actionItem _ item => some item
    | _ => none
  | _ => none

/-- What something is to choose from the open menu. -/
def chosen? (d : Desk) (i : Input) : Option RowAction :=
  d.openMenu?.bind fun (_, menu) ↦ (d.chosenItem? i).bind (d.menu.select? menu)

/-! ### Moves -/

/-- The moves of a turn from a desk, each with the desk that it leads to and what it asks of the
outside. A turn is the answer to an input, unless the session has just started. -/
inductive Move (o : Oracle) (a : Answers) (i : Option Input) (d : Desk) : Desk → List Effect → Prop
  /- Notices -/
  | notify (kind : NoticeKind) (message : String) :
      Move o a i d (d.notify kind message).desk (d.notify kind message).effects
  | remind (hi : i = none) (hnotice : d.workspace.notice.isSome) :
      Move o a i d { d with noticeToken := d.nextToken } [.clearLater d.nextToken]
  | clearNotice (hi : i = some (.news (.noticeOver d.noticeToken))) :
      Move o a i d (d.dispatch .clearNotice) []
  /- Getting about on the screen -/
  | focus {c : Workspace.Command} (hc : c = .nextFocus ∨ c = .prevFocus ∨ c = .focusSearch) :
      Move o a i d (d.dispatch c) []
  | moveInSidebar {s : Sidebar} (hmenu : s.menu = d.sidebar.menu)
      (hcollapsed : s.collapsed = d.sidebar.collapsed) : Move o a i d { d with sidebar := s } []
  | toggleSidebar :
      Move o a i d
        { (d.dispatch .toggleSidebar).closeMenu with
          sidebar := { d.sidebar with collapsed := !d.workspace.sidebarCollapsed } }
        [.saveCollapsed !d.workspace.sidebarCollapsed]
  | selectRow {row : Nat}
      (hrow : row ≤ d.selectedRow ∨
        ∃ v, d.workspace.view = some v ∧ row < (d.rows v).length) :
      Move o a i d { d with selectedRow := row } []
  | measured (width height : Nat) : Move o a i d (d.resize width height) []
  /- The menu of a row -/
  | toggleMenu {v : Resource} {row : Nat} {r : Record} {caps : Capabilities} (button : Rect)
      (hfree : d.overlays = []) (hv : d.workspace.view = some v) (hr : (d.rows v)[row]? = some r)
      (hcaps : d.capabilities = some caps) (hne : (r.actions caps).isEmpty = false) :
      Move o a i d
        { d with menu := d.menu.toggle row (r.actions caps) button d.viewport.toRect .cells } []
  | highlight {row : Nat} {menu : ActionMenu RowAction} (delta : Int)
      (hopen : d.openMenu? = some (row, menu)) :
      Move o a i d { d with menu := d.menu.moveHighlight menu delta } []
  | closeMenu : Move o a i d d.closeMenu []
  /- What lies over the screen -/
  | openDetail {v : Resource} {row : Nat} {r : Record} (hfree : d.overlays = [])
      (hmenu : d.menu = none) (hv : d.workspace.view = some v)
      (hr : (d.rows v)[row]? = some r) :
      Move o a i d { d with detail := some (.ofRow v r) } []
  | closeDetail : Move o a i d { d with detail := none } []
  | askUpload {v : Resource} {row : Nat} {menu : ActionMenu RowAction} {r : Record} {id : Int64}
      (hfree : d.overlays = []) (hv : d.workspace.view = some v)
      (hopen : d.openMenu? = some (row, menu)) (hchosen : i.bind d.chosen? = some .uploadDocument)
      (hr : (d.rows v)[row]? = some r) (hid : r.id? = some id) :
      Move o a i d { d with menu := none, upload := some ⟨v, id, r.title, ""⟩ } []
  | typePath {p : UploadPrompt} (path : String) (hp : d.upload = some p) :
      Move o a i d { d with upload := some { p with path := path } } []
  | cancelUpload : Move o a i d { d with upload := none } []
  | upload {p : UploadPrompt} {u : Upload} {k : Key} (hp : d.upload = some p)
      (hi : i = some (.key k)) (hk : k.code = .enter) (htitle : u.title = p.title)
      (hpath : u.path = Text.trim p.path) (hu : u.check a.maxUploadBytes = .ok ()) :
      Move o a i d { d with upload := none } [.upload p.view p.id u]
  | askDelete {v : Resource} {row : Nat} {menu : ActionMenu RowAction} {r : Record} {id : Int64}
      (hfree : d.overlays = []) (hv : d.workspace.view = some v)
      (hopen : d.openMenu? = some (row, menu)) (hchosen : i.bind d.chosen? = some .delete)
      (hr : (d.rows v)[row]? = some r) (hid : r.id? = some id) :
      Move o a i d { d with menu := none, confirm := some ⟨v, id, r.title⟩ } []
  | cancelDelete : Move o a i d { d with confirm := none } []
  | delete {p : PendingDelete} {k : Key} (hp : d.confirm = some p) (hi : i = some (.key k))
      (hk : k.code = .char 'y' ∨ k.code = .char 'Y') :
      Move o a i d { d with confirm := none } [.delete p.view p.id]
  /- Lists and views -/
  | typeSearch {v : Resource} (input : String) (hv : d.workspace.view = some v) :
      Move o a i d (d.setList v ((d.list v).setInput input)) []
  | request {v : Resource} {l : Listing Record} (hl : (d.list v).Asks l) :
      Move o a i d (d.setList v l) [.fetch v l.request]
  | receive {v : Resource} {seq : UInt64} {answer : Except String (Page Record)}
      (hi : i = some (.news (.loaded v seq answer))) :
      Move o a i d (d.receive v seq answer).desk (d.receive v seq answer).effects
  | openView {v : Resource} (hv : (capabilitiesIn o v).canView) :
      Move o a i d
        { d.dispatch (.selectView v) with
          capabilities := some (capabilitiesIn o v), selectedRow := 0, menu := none } []
  | logout : Move o a i d d.logout.desk d.logout.effects

/-- One move after another, with all that they ask of the outside. -/
inductive Moves (o : Oracle) (a : Answers) (i : Option Input) : Desk → Desk → List Effect → Prop
  | nil (d : Desk) : Moves o a i d d []
  | cons {d d' d'' : Desk} {es es' : List Effect} (h : Move o a i d d' es)
      (hs : Moves o a i d' d'' es') : Moves o a i d d'' (es ++ es')

variable {o : Oracle} {a : Answers} {i : Option Input} {d d' : Desk} {es : List Effect}

/-- A single move is a way that consists of it alone. -/
theorem Move.moves (h : Move o a i d d' es) : Moves o a i d d' es := by
  rw [← List.append_nil es]
  exact .cons h (.nil d')

/-- What the later moves ask of the outside comes after what the earlier ones ask. -/
theorem Moves.append {d'' : Desk} {es' : List Effect} (h : Moves o a i d d' es)
    (h' : Moves o a i d' d'' es') : Moves o a i d d'' (es ++ es') := by
  induction h with
  | nil => exact h'
  | cons hm _ ih =>
    rw [List.append_assoc]
    exact .cons hm (ih h')

/-- A turn comes about by moves. -/
abbrev Makes (o : Oracle) (a : Answers) (i : Option Input) (d : Desk) (t : Turn) : Prop :=
  Moves o a i d t.desk t.effects

/-- A turn that goes on where another one ended comes about by the moves of both. -/
theorem Makes.andThen {t : Turn} {f : Desk → Turn} (h : Makes o a i d t)
    (hf : Makes o a i t.desk (f t.desk)) : Makes o a i d (t.andThen f) :=
  h.append hf

theorem makes_idle (d : Desk) : Makes o a i d d.idle :=
  .nil d

theorem makes_notify (d : Desk) (kind : NoticeKind) (message : String) :
    Makes o a i d (d.notify kind message) :=
  (Move.notify kind message).moves

/-! ### Asking for pages, and opening views -/

/-- Setting the list of one view leaves the lists of all others alone. -/
@[simp]
theorem list_setList (d : Desk) (v w : Resource) (l : Listing Record) :
    (d.setList v l).list w = if w = v then l else d.list w := by
  by_cases h : w = v
  · simp [list, setList, h]
  · simp [list, setList, h]

/-- A request is sent; if that cannot be started, a notice tells so. -/
theorem makes_fetch {v : Resource} {l : Listing Record} (hl : (d.list v).Asks l) :
    Makes o a i d ((d.setList v l).fetch a v) := by
  unfold fetch
  rw [list_setList, if_pos rfl]
  cases a.fetch with
  | ok _ => exact (Move.request hl).moves
  | error e => exact .cons (.request hl) (makes_notify _ _ _)

/-- A list that asks for a page is written down, the first row is selected, the menu closed, and the
request sent. -/
theorem makes_ask {v : Resource} {l : Listing Record} (hl : (d.list v).Asks l) :
    Makes o a i d (d.ask a v l) :=
  .cons (.selectRow (.inl (Nat.zero_le _))) (.cons .closeMenu (makes_fetch hl))

theorem makes_refetch (d : Desk) (v : Resource) : Makes o a i d (d.refetch a v) :=
  makes_fetch (d.list v).asks_refresh

/-- A view that the user may not see does not open; a notice tells so. -/
theorem switchView_of_not_canView {v : Resource} (hv : (capabilitiesIn o v).canView = false)
    (a : Answers) (d : Desk) :
    switchView o a d v = d.notify .error ("you do not have access to " ++ v.label) :=
  if_neg (by simp [hv])

/-- Opening a view asks for its current page, and a view that the user may not see is only told of.
-/
theorem makes_switchView (d : Desk) (v : Resource) : Makes o a i d (switchView o a d v) := by
  cases hv : (capabilitiesIn o v).canView with
  | false =>
    rw [switchView_of_not_canView hv]
    exact makes_notify _ _ _
  | true =>
    have hopens : switchView o a d v =
        ask a { d.dispatch (.selectView v) with capabilities := some (capabilitiesIn o v) } v
          (d.list v).refresh := if_pos hv
    rw [hopens]
    exact .cons (.openView hv) (makes_fetch ((d.list v).asks_refresh))

/-! ### Taking answers -/

/-- New rows of a view change no more than the menu and the selected row. -/
theorem exists_settle_eq (d : Desk) (v : Resource) :
    ∃ row menu, d.settle v = { d with selectedRow := row, menu := menu } := by
  unfold settle
  split
  · exact ⟨_, _, rfl⟩
  · exact ⟨d.selectedRow, d.menu, rfl⟩

/-- An answer changes the list of its view, the menu and the selected row, and the notice; all else
stays as it is. -/
theorem exists_receive_eq (d : Desk) (v : Resource) (seq : UInt64)
    (answer : Except String (Page Record)) :
    ∃ row menu notice token, (d.receive v seq answer).desk =
      { d.setList v ((d.list v).apply seq (answer.mapError fun message ↦ ⟨message, []⟩)).1 with
        workspace := { d.workspace with notice := notice }
        selectedRow := row
        menu := menu
        noticeToken := token } := by
  dsimp only [receive]
  split
  · obtain ⟨row, menu, hsettle⟩ := exists_settle_eq (d.setList v _) v
    exact ⟨row, menu, _, _, hsettle⟩
  · exact ⟨_, _, _, _, rfl⟩
  · exact ⟨_, _, _, _, rfl⟩

end PitchDesk.Desk
