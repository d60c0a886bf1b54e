import PitchDesk.Proofs.Desk.Changes
import PitchDesk.Proofs.Desk.Routes

/-!
# The view that a session starts with

A session starts with the first view that the menu leads to and the user may see. It is looked for
among the records of the menu, and then the cursor is put on it among the lines of the sidebar. As
nothing is folded yet, the records and the lines lead to the same views in the same order, so the
cursor is always put on a line that leads to the view, `Opening.first_view`.

The two walks are different recursions, one over records and one over lines, and views are found in
each by reading paths. That they agree holds for every menu (`Sidebar.filterMap_view?_visible`),
also for one in which several records have the same path; the cursor is on the first of their lines
then. A group counts like any other record here, so a session may start with a view that only a
group leads to.
-/

namespace PitchDesk.Desk

variable {o : Oracle} {d : Desk} {v : Resource}

/-- Telling where the menu comes from changes no more than the notice, and asks for no page. -/
theorem exists_greet_eq (d : Desk) (source : Menu.Source) :
    (∃ notice token, (d.greet source).desk =
      { d with workspace := { d.workspace with notice := notice }, noticeToken := token }) ∧
    (d.greet source).effects.filter Effect.isFetch = [] := by
  unfold greet
  split
  · exact ⟨⟨_, _, rfl⟩, rfl⟩
  · split
    · exact ⟨⟨_, _, rfl⟩, rfl⟩
    · exact ⟨⟨_, _, rfl⟩, rfl⟩

/-- A view opens without a change to the sidebar, and its current page is asked for, once. -/
theorem switchView_of_canView (hv : (capabilitiesIn o v).canView = true) (a : Answers) (d : Desk) :
    (switchView o a d v).desk.workspace.view = some v ∧
      (switchView o a d v).desk.sidebar = d.sidebar ∧
      (switchView o a d v).effects.filter Effect.isFetch =
        [.fetch v (d.list v).refresh.request] := by
  refine ⟨by rw [view_switchView, if_pos hv], ?_, ?_⟩
  · simp only [switchView, if_pos hv, ask, fetch]
    cases a.fetch <;> rfl
  · simp only [switchView, if_pos hv, ask]
    rw [(filter_isFetch_fetch a _ v).1]
    exact congrArg (fun l : Listing Record ↦ [Effect.fetch v l.request])
      ((list_setList _ v v (d.list v).refresh).trans (if_pos rfl))

/-- The first view that the menu leads to and the user may see, in the order of the records. -/
def firstView? (o : Oracle) (menu : Forest MenuRecord) : Option Resource :=
  (menu.flatten.filterMap fun r ↦ Resource.ofRoute? r.path).find? fun v ↦
    (capabilitiesIn o v).canView

/-- Which view is opened first is decided by the menu and the rules alone. -/
theorem openFirst_eq (o : Oracle) (a : Answers) (d : Desk) :
    openFirst o a d =
      match firstView? o d.sidebar.menu with
      | some v => switchView o a { d with sidebar := (d.sidebar.selectView? v).getD d.sidebar } v
      | none => d.notify .info "no list views are available for this account" := by
  unfold openFirst Sidebar.routableViews
  rw [Sidebar.find?_firstOccurrences]
  rfl

/-- While nothing is folded, the view that is opened first has a line. -/
theorem exists_visible_of_firstView? (hfirst : firstView? o d.sidebar.menu = some v)
    (hfolded : d.sidebar.folded = []) : ∃ e ∈ d.sidebar.visible, e.view? = some v := by
  have hvisible : d.sidebar.visible = (Sidebar.ofMenu d.sidebar.menu false).visible := by
    rw [Sidebar.visible, hfolded]
    rfl
  have hmem := List.mem_of_find?_eq_some hfirst
  rwa [← Sidebar.filterMap_view?_visible _ false, List.mem_filterMap, ← hvisible] at hmem

/-- The view opens, the cursor is put on the first line that leads to it, and its page is asked
for. -/
theorem openFirst_of_firstView? (hfirst : firstView? o d.sidebar.menu = some v)
    (hfolded : d.sidebar.folded = []) (a : Answers) :
    (openFirst o a d).desk.workspace.view = some v ∧
      (∃ e, (openFirst o a d).desk.sidebar.selected? = some e ∧ e.view? = some v ∧
        ∀ e' ∈ (openFirst o a d).desk.sidebar.visible.take (openFirst o a d).desk.sidebar.cursor,
          e'.view? ≠ some v) ∧
      (openFirst o a d).effects.filter Effect.isFetch =
        [.fetch v (d.list v).refresh.request] := by
  obtain ⟨i, e, hselect, he, hview, hbefore⟩ :=
    Sidebar.exists_selectView?_eq (exists_visible_of_firstView? hfirst hfolded)
  have hv : (capabilitiesIn o v).canView = true :=
    List.find?_some (p := fun v ↦ (capabilitiesIn o v).canView) hfirst
  obtain ⟨hopen, hsidebar, hasked⟩ :=
    switchView_of_canView hv a { d with sidebar := { d.sidebar with cursor := i } }
  have heq : openFirst o a d =
      switchView o a { d with sidebar := { d.sidebar with cursor := i } } v := by
    simp only [openFirst_eq, hfirst, hselect]
    rfl
  rw [heq, hsidebar]
  exact ⟨hopen, ⟨e, he, hview, hbefore⟩, hasked⟩

/-- **A session starts with the first view that the menu leads to and the user may see.** Whatever
the menu, the rules and the outside are, look for that view among the records of the menu, each
before those below it:
1. if there is one, it is the open view, the cursor is on the first line that leads to it, and its
   first page is asked for without a search term, and no other page;
2. if there is none, no view is opened, no page is asked for, and a notice tells so. -/
theorem Opening.first_view (s : Opening) (o : Oracle) :
    let t := s.start o
    (∀ v, firstView? o s.menu.forest = some v →
      t.desk.workspace.view = some v ∧
      (∃ e, t.desk.sidebar.selected? = some e ∧ e.view? = some v ∧
        ∀ e' ∈ t.desk.sidebar.visible.take t.desk.sidebar.cursor, e'.view? ≠ some v) ∧
      t.effects.filter Effect.isFetch = [.fetch v ⟨1, 1, max s.pageSize 1, ""⟩]) ∧
    (firstView? o s.menu.forest = none →
      t.desk.workspace.view = s.workspace.view ∧
      t.effects.filter Effect.isFetch = [] ∧
      t.desk.workspace.notice = some ⟨.info, "no list views are available for this account"⟩) := by
  intro t
  let d := new s.workspace (.ofMenu s.menu.forest s.workspace.sidebarCollapsed) s.pageSize
  obtain ⟨⟨notice, token, hdesk⟩, hgreet⟩ := exists_greet_eq d s.menu.source
  have ht : t.desk = (openFirst o s.answers (d.greet s.menu.source).desk).desk := rfl
  have heffects : t.effects.filter Effect.isFetch =
      (openFirst o s.answers (d.greet s.menu.source).desk).effects.filter Effect.isFetch := by
    show ((d.greet s.menu.source).effects ++ _).filter Effect.isFetch = _
    rw [List.filter_append, hgreet, List.nil_append]
  -- the menu is new, and no list was opened yet
  have hfirst : firstView? o (d.greet s.menu.source).desk.sidebar.menu =
      firstView? o s.menu.forest := by rw [hdesk]; rfl
  have hfolded : (d.greet s.menu.source).desk.sidebar.folded = [] := by rw [hdesk]; rfl
  have hlist (v : Resource) : (d.greet s.menu.source).desk.list v = .new s.pageSize := by
    rw [hdesk]
    rfl
  rw [heffects, ht, ← hfirst]
  refine ⟨fun v hv ↦ ?_, fun hnone ↦ ?_⟩
  · have hopened := openFirst_of_firstView? hv hfolded s.answers
    rw [hlist] at hopened
    exact hopened
  · rw [openFirst_eq, hnone, hdesk]
    exact ⟨rfl, rfl, rfl⟩

/-- A user who may see nothing but the vendors starts with them, though only a group leads to
them. -/
theorem Opening.vendors_of_group_open_first :
    let t := groupedOpening.start (Sample.session .admin [⟨"vendors", "read"⟩]).oracle
    t.desk.workspace.view = some .vendors ∧
      (∃ e, t.desk.sidebar.selected? = some e ∧ e.view? = some .vendors) ∧
      t.effects.filter Effect.isFetch = [.fetch .vendors ⟨1, 1, 10, ""⟩] := by
  have hfirst : firstView? (Sample.session .admin [⟨"vendors", "read"⟩]).oracle
      groupedOpening.menu.forest = some .vendors := by decide +kernel
  obtain ⟨hopen, ⟨e, he, hview, -⟩, hasked⟩ := (groupedOpening.first_view _).1 .vendors hfirst
  exact ⟨hopen, ⟨e, he, hview⟩, hasked⟩

end PitchDesk.Desk
