import PitchDesk.Proofs.Desk.History
import PitchDesk.Proofs.Desk.Questions
import PitchDesk.Proofs.Desk.Requests
import PitchDesk.Proofs.Desk.Tidy

/-!
# After signing out

Signing out leaves a desk on which nothing can be opened: no view is open, the sidebar has no lines
that lead to one, and all lists are forgotten. `SignedOut` says so, and handler by handler it is
shown that every turn keeps it and asks for nothing, `SignedOut.step`.

Only an answer to a request with the number zero could do otherwise, since a list that was
forgotten would take it for its own. Requests are numbered from one on, `Opening.counted`, so no
answer that a session still waits for is one, `Opening.nothing_after_logout`.

## What each rests on

* `SignedOut.step` rests on what the handlers look up before they act: a view, a line of the
  sidebar, or an overlay. None of them is there, so it goes through the handlers and not through
  `Move`: a move may open a view, and which moves are made is what is to be shown. Nothing about
  the session before it signed out is needed.
* `Opening.counted` rests on all that happened before, and on nothing that happens after. The list
  of a view counts up by one with every request, and a list that was forgotten starts over; so the
  numbers repeat after signing out, but none of them is zero as long as fewer than `UInt64.size`
  requests are made.

The two meet in one place only, the answers that come late. A late answer with a number that the
forgotten list does not wait for is dropped by it, as by any list.
-/

namespace PitchDesk

namespace Desk

variable {o : Oracle} {a : Answers} {i : Option Input} {d d' : Desk} {es : List Effect}

/-- Nobody is signed in, and nothing can be opened. -/
structure SignedOut (d : Desk) : Prop where
  view : d.workspace.view = none
  user : d.workspace.user = none
  capabilities : d.capabilities = none
  rows : ∀ v, (d.list v).rows = []
  latest : ∀ v, (d.list v).latest = 0
  overlays : d.overlays = []
  menu : d.menu = none
  sidebar : d.sidebar.menu = []

/-- A turn leaves nobody signed in, and neither asks for a page nor changes a row. -/
structure Rests (t : Turn) : Prop where
  signedOut : t.desk.SignedOut
  effects : ∀ e ∈ t.effects, e.isFetch = false ∧ e.change? = none

/-- A turn that rests may go on with another one that does. -/
theorem Rests.andThen {t : Turn} {f : Desk → Turn} (h : Rests t) (hf : Rests (f t.desk)) :
    Rests (t.andThen f) :=
  ⟨hf.signedOut, fun e he ↦ (List.mem_append.1 he).elim (h.effects e) (hf.effects e)⟩

namespace SignedOut

theorem idle (h : d.SignedOut) : Rests d.idle :=
  ⟨h, fun _ ↦ nofun⟩

theorem quit (h : d.SignedOut) : Rests { desk := d, quits := true } :=
  ⟨h, fun _ ↦ nofun⟩

theorem notify (h : d.SignedOut) (kind : NoticeKind) (message : String) :
    Rests (d.notify kind message) where
  signedOut := ⟨h.view, h.user, h.capabilities, h.rows, h.latest, h.overlays, h.menu, h.sidebar⟩
  effects e he := by
    rw [List.mem_singleton.1 he]
    exact ⟨rfl, rfl⟩

/-- Only signing in and opening a view bring a user or a view back. -/
theorem dispatch (h : d.SignedOut) {c : Workspace.Command}
    (hview : (d.workspace.dispatch c).1.view = d.workspace.view)
    (huser : (d.workspace.dispatch c).1.user = d.workspace.user) : (d.dispatch c).SignedOut :=
  ⟨hview.trans h.view, huser.trans h.user, h.capabilities, h.rows, h.latest, h.overlays, h.menu,
    h.sidebar⟩

theorem closeMenu (h : d.SignedOut) : d.closeMenu.SignedOut :=
  ⟨h.view, h.user, h.capabilities, h.rows, h.latest, h.overlays, rfl, h.sidebar⟩

/-! ### The sidebar has no lines -/

theorem withSidebar (h : d.SignedOut) {s : Sidebar} (hs : s.menu = []) :
    SignedOut { d with sidebar := s } :=
  ⟨h.view, h.user, h.capabilities, h.rows, h.latest, h.overlays, h.menu, hs⟩

theorem moveCursor (h : d.SignedOut) (delta : Int) :
    SignedOut { d with sidebar := d.sidebar.moveCursor delta } :=
  h.withSidebar h.sidebar

theorem visible_eq_nil (h : d.SignedOut) : d.sidebar.visible = [] := by
  rw [Sidebar.visible, h.sidebar]
  rfl

theorem selected?_eq_none (h : d.SignedOut) : d.sidebar.selected? = none := by
  rw [Sidebar.selected?, h.visible_eq_nil]
  rfl

theorem toggleExpanded (h : d.SignedOut) :
    Rests (Desk.idle { d with sidebar := d.sidebar.toggleExpanded?.getD d.sidebar }) := by
  rw [Sidebar.toggleExpanded?, h.selected?_eq_none]
  exact h.idle

theorem activateEntry (h : d.SignedOut) : Rests (d.activateEntry o a) := by
  rw [Desk.activateEntry, h.selected?_eq_none]
  exact h.idle

theorem toggleSidebar (h : d.SignedOut) : Rests (d.toggleSidebar a) := by
  have hshown : (d.dispatch .toggleSidebar).SignedOut :=
    h.dispatch (Workspace.view_dispatch _ _) (Workspace.user_dispatch _ _)
  have hasked (collapsed : Bool) :
      Rests ⟨{ (d.dispatch .toggleSidebar).closeMenu with
          sidebar := { d.sidebar with collapsed := collapsed } },
        [.saveCollapsed collapsed], false⟩ := by
    refine ⟨hshown.closeMenu.withSidebar h.sidebar, fun e he ↦ ?_⟩
    rw [List.mem_singleton.1 he]
    exact ⟨rfl, rfl⟩
  dsimp only [Desk.toggleSidebar]
  rw [ite_toggleCollapsed]
  cases a.saveCollapsed with
  | ok _ => exact hasked _
  | error e => exact (hasked _).andThen ((hasked _).signedOut.notify _ _)

/-! ### Keys -/

/-- Keys that go to the sidebar move a cursor that is on no line. -/
theorem sidebarKey (h : d.SignedOut) (k : Key) : Rests (d.sidebarKey o a k) := by
  unfold Desk.sidebarKey
  split
  · exact h.quit
  · exact (h.moveCursor 1).idle
  · exact (h.moveCursor 1).idle
  · exact (h.moveCursor (-1)).idle
  · exact (h.moveCursor (-1)).idle
  · exact h.toggleExpanded
  · exact h.toggleExpanded
  · exact h.toggleExpanded
  · exact h.activateEntry
  · exact h.activateEntry
  · exact h.activateEntry
  · exact h.idle

/-- Without a view, nothing can be searched for. -/
theorem searchKey (h : d.SignedOut) (k : Key) : Rests (d.searchKey a k) := by
  unfold Desk.searchKey
  rw [h.view]
  split
  · exact (h.dispatch (Workspace.view_dispatch _ _) (Workspace.user_dispatch _ _)).idle
  · exact h.idle

/-- Without a view, no key that goes to the table asks for a page. -/
theorem tableKey (h : d.SignedOut) (k : Key) : Rests (d.tableKey a k) := by
  unfold Desk.tableKey
  rw [h.view]
  split
  · exact h.quit
  · split
    · exact (h.dispatch (Workspace.view_dispatch _ _) (Workspace.user_dispatch _ _)).idle
    · exact h.idle

/-- Signing out leaves nobody signed in, unless something lies over the screen. -/
theorem logout (hoverlays : d.overlays = []) : Rests d.logout where
  signedOut := ⟨rfl, rfl, rfl, fun _ ↦ rfl, fun _ ↦ rfl, hoverlays, rfl, rfl⟩
  effects e he := by
    rw [List.mem_singleton.1 he]
    exact ⟨rfl, rfl⟩

theorem freeKey (h : d.SignedOut) (k : Key) : Rests (d.freeKey o a k) := by
  have hfocus {c : Workspace.Command} (hview : (d.workspace.dispatch c).1.view = d.workspace.view)
      (huser : (d.workspace.dispatch c).1.user = d.workspace.user) : Rests (d.dispatch c).idle :=
    (h.dispatch hview huser).idle
  unfold Desk.freeKey
  split
  · exact hfocus (Workspace.view_dispatch _ _) (Workspace.user_dispatch _ _)
  · split
    · exact hfocus (Workspace.view_dispatch _ _) (Workspace.user_dispatch _ _)
    · split
      · exact h.toggleSidebar
      · split
        · exact logout h.overlays
        · split
          · exact h.sidebarKey k
          · exact h.searchKey k
          · exact h.tableKey k

theorem overlay_eq_none (h : d.SignedOut) : d.overlay = none :=
  List.getLast?_eq_none_iff.2 h.overlays

/-- A key goes to the screen, since there is neither an overlay nor a menu. -/
theorem key (h : d.SignedOut) (k : Key) : Rests (d.key o a k) := by
  unfold Desk.key
  rw [h.overlay_eq_none, h.menu]
  split
  · exact h.quit
  · exact h.freeKey k

/-! ### The mouse, and what comes from outside -/

/-- A press in the sidebar is on no line of it. -/
theorem pressSidebar (h : d.SignedOut) (area : Area) (row : Nat) :
    Rests (d.pressSidebar o a area row) := by
  dsimp only [Desk.pressSidebar]
  split
  · exact h.idle
  · split
    · exact (h.moveCursor _).activateEntry
    · exact (h.moveCursor _).idle

/-- A press is on a sidebar without lines or on a table without a view. -/
theorem press (h : d.SignedOut) (column row : Nat) : Rests (d.press o a column row) := by
  dsimp only [Desk.press]
  rw [h.overlay_eq_none, if_neg (by simp)]
  generalize (TableAreas.ofPane d.panes.table).target d.menu column row = target
  have hmet : (if target.keepsMenu then d else d.closeMenu).SignedOut := by
    split
    · exact h
    · exact h.closeMenu
  generalize (if target.keepsMenu then d else d.closeMenu) = met at hmet ⊢
  rw [hmet.view]
  split
  · exact hmet.pressSidebar _ row
  · rename_i hview
    cases hview
  · exact hmet.idle

theorem mouse (h : d.SignedOut) (m : MouseAction) : Rests (d.mouse o a m) := by
  cases m with
  | press column row => exact h.press column row
  | scroll => exact h.closeMenu.idle
  | other => exact h.idle

/-- Answers find a list that waits for none, unless they are to the request with the number zero. -/
theorem hear (h : d.SignedOut) {n : News} (hn : ∀ v answer, n ≠ .loaded v 0 answer) :
    Rests (d.hear n) := by
  cases n with
  | noticeOver token =>
    unfold Desk.hear
    dsimp only
    split
    · exact (h.dispatch (Workspace.view_dispatch _ _) (Workspace.user_dispatch _ _)).idle
    · exact h.idle
  | loaded v seq answer =>
    have hseq : seq ≠ (d.list v).latest := by
      rw [h.latest]
      rintro rfl
      exact hn v answer rfl
    have hlist (w : Resource) : (d.setList v (d.list v)).list w = d.list w := by
      rw [list_setList]
      split
      · subst w
        rfl
      · rfl
    show Rests (d.receive v seq answer)
    rw [receive, Listing.apply_of_ne hseq]
    exact
      { signedOut := ⟨h.view, h.user, h.capabilities, fun w ↦ hlist w ▸ h.rows w,
          fun w ↦ hlist w ▸ h.latest w, h.overlays, h.menu, h.sidebar⟩
        effects := fun _ ↦ nofun }

/-- **Every turn leaves a desk signed out, and asks for nothing.** -/
theorem step (h : d.SignedOut) (i : Input)
    (hi : ∀ v answer, i ≠ .news (.loaded v 0 answer)) : Rests (d.step o a i) := by
  cases i with
  | key k => exact h.key k
  | mouse m => exact h.mouse m
  | news n => exact h.hear fun v answer hn ↦ hi v answer (congrArg _ hn)
  | resized => exact h.closeMenu.idle
  | measured width height =>
    exact ⟨⟨h.view, h.user, h.capabilities, h.rows, h.latest, h.overlays, h.menu, h.sidebar⟩,
      fun _ ↦ nofun⟩

/-- Turns that follow each other leave a desk signed out. -/
theorem play (h : d.SignedOut) {xs : List Occasion}
    (hxs : ∀ x ∈ xs, ∀ v answer, x.input ≠ .news (.loaded v 0 answer)) :
    Rests (play o d xs) := by
  induction xs generalizing d with
  | nil => exact h.idle
  | cons x xs ih =>
    have hstep : Rests (d.step o x.answers x.input) :=
      h.step x.input (hxs x (List.mem_cons_self ..))
    exact hstep.andThen (ih hstep.signedOut fun y hy ↦ hxs y (List.mem_cons_of_mem x hy))

end SignedOut

/-- The key for signing out does so, or it asks for nothing. -/
theorem key_eq_logout {k : Key} (hcode : k.code = .char 'l') (hcontrol : k.isControl)
    (hout : .logout ∈ (d.key o a k).effects) : d.overlays = [] ∧ d.key o a k = d.logout := by
  unfold key at hout ⊢
  rw [if_neg (by simp [hcode])] at hout ⊢
  split at hout
  · simp [confirmKey, hcode, idle] at hout
  · have htyped : k.typed? = none := by
      obtain ⟨⟨hcontrol, -⟩, -⟩ : (k.control = true ∧ _) ∧ _ := by
        simpa [Key.isControl] using hcontrol
      simp [Key.typed?, hcode, hcontrol]
    simp [uploadKey, hcode, htyped, idle] at hout
  · simp [detailKey, hcode, idle] at hout
  · rename_i hoverlay
    split at hout
    · unfold menuKey at hout
      split at hout
      · simp [idle] at hout
      · simp [hcode, idle] at hout
    · rename_i hmenu
      rw [if_neg hmenu]
      exact ⟨overlays_eq_nil hoverlay, by simp [freeKey, hcode, hcontrol]⟩

/-! ### No request has the number zero -/

/-- The requests of a view's list among what is asked of the outside, those that signing out made it
forget included: none has the number zero, and the list has counted no further. -/
structure Counted (v : Resource) (d : Desk) (rs : List PageRequest) : Prop where
  latest : (d.list v).latest.toNat ≤ rs.length
  seq : ∀ r ∈ rs, r.seq ≠ 0

variable {v : Resource} {rs : List PageRequest}

/-- Every move keeps the count: a request counts up, signing out starts over. -/
theorem Move.counted (h : Move o a i d d' es) (hd : Counted v d rs)
    (hn : (rs ++ es.filterMap (·.request? v)).length < UInt64.size) :
    Counted v d' (rs ++ es.filterMap (·.request? v)) := by
  rcases h.list_cases v with ⟨hl, rfl⟩ | ⟨hnew, -, hes⟩ | ⟨hlatest, -, hes⟩
  · have hrequest : [Effect.fetch v (d'.list v).request].filterMap (·.request? v) =
        [(d'.list v).request] := by simp
    rw [hrequest, List.length_append, List.length_singleton] at hn
    have hnext : (d'.list v).latest.toNat = (d.list v).latest.toNat + 1 := by
      rw [hl.latest_eq, UInt64.toNat_add]
      exact Nat.mod_eq_of_lt ((Nat.add_le_add_right hd.latest 1).trans_lt hn)
    rw [hrequest]
    refine ⟨by rw [hnext]; simpa using hd.latest, fun r hr ↦ ?_⟩
    rcases List.mem_append.1 hr with hr | hr
    · exact hd.seq r hr
    · rw [List.mem_singleton.1 hr]
      intro hzero
      rw [show (d'.list v).latest = 0 from hzero] at hnext
      cases hnext
  · rw [filterMap_request?_eq_nil hes, List.append_nil]
    exact ⟨by rw [hnew]; exact Nat.zero_le _, hd.seq⟩
  · rw [filterMap_request?_eq_nil hes, List.append_nil]
    exact ⟨hlatest ▸ hd.latest, hd.seq⟩

theorem Moves.counted (h : Moves o a i d d' es) (hd : Counted v d rs)
    (hn : (rs ++ es.filterMap (·.request? v)).length < UInt64.size) :
    Counted v d' (rs ++ es.filterMap (·.request? v)) := by
  induction h generalizing rs with
  | nil => simpa using hd
  | cons hm _ ih =>
    rw [List.filterMap_append, ← List.append_assoc] at hn ⊢
    refine ih (hm.counted hd (lt_of_le_of_lt ?_ hn)) hn
    simp

/-- At every point of a session, the requests of a view were numbered from one on. -/
theorem Opening.counted (s : Opening) (o : Oracle) (xs : List Occasion) (v : Resource)
    (hn : ((asked (s.rounds o xs)).filterMap (·.request? v)).length < UInt64.size) :
    Counted v (s.after o xs) ((asked (s.rounds o xs)).filterMap (·.request? v)) := by
  refine s.rounds_induction (P := fun d rs ↦
    ((asked rs).filterMap (·.request? v)).length < UInt64.size →
      Counted v d ((asked rs).filterMap (·.request? v))) xs ?_ ?_ hn
  · have hbare : Counted v s.bare [] := ⟨Nat.zero_le _, nofun⟩
    simpa [asked] using (s.makes_start o).counted hbare
  · intro d rs a i hd hn
    rw [asked_concat, List.filterMap_append] at hn ⊢
    refine (makes_step d i).counted (hd (lt_of_le_of_lt ?_ hn)) hn
    simp

/-- **After signing out, nothing comes back.** Whatever is done then, and whatever answers to
requests of the session still come: no view opens, nobody is signed in, no list has rows, nothing
lies over the screen, no menu is open, the sidebar has no lines, and the outside is neither asked
for a page nor to delete or upload something. -/
theorem Opening.nothing_after_logout (s : Opening) (o : Oracle) (xs ys : List Occasion)
    (a : Answers) (k : Key) (hcode : k.code = .char 'l') (hcontrol : k.isControl = true)
    (hout : .logout ∈ ((s.after o xs).step o a (.key k)).effects)
    (hn : ∀ v, ((asked (s.rounds o xs)).filterMap (·.request? v)).length < UInt64.size)
    (hlate : ∀ y ∈ ys, ∀ v seq answer, y.input = .news (.loaded v seq answer) →
      ∃ r, .fetch v r ∈ asked (s.rounds o xs) ∧ r.seq = seq) :
    let t := play o ((s.after o xs).step o a (.key k)).desk ys
    t.desk.workspace.view = none ∧ t.desk.workspace.user = none ∧ t.desk.capabilities = none ∧
      (∀ v, t.desk.rows v = []) ∧ t.desk.overlays = [] ∧ t.desk.menu = none ∧
      t.desk.sidebar.menu = [] ∧ t.desk.sidebar.visible = [] ∧
      ∀ e ∈ t.effects, e.isFetch = false ∧ e.change? = none := by
  intro t
  obtain ⟨hoverlays, hlogout⟩ := key_eq_logout hcode hcontrol hout
  have hsigned : ((s.after o xs).step o a (.key k)).desk.SignedOut := by
    rw [show (s.after o xs).step o a (.key k) = _ from hlogout]
    exact (SignedOut.logout hoverlays).signedOut
  have hrests : Rests t := by
    refine hsigned.play fun y hy v answer hi ↦ ?_
    obtain ⟨r, hr, hseq⟩ := hlate y hy v 0 answer hi
    have hmem := List.mem_filterMap.2 ⟨_, hr, Effect.request?_fetch v r⟩
    exact (s.counted o xs v (hn v)).seq r hmem hseq
  have h := hrests.signedOut
  refine ⟨h.view, h.user, h.capabilities, fun v ↦ ?_, h.overlays, h.menu, h.sidebar,
    h.visible_eq_nil, hrests.effects⟩
  rw [rows_eq_rows_list]
  exact h.rows v

/-- The user signs out while the events are loading. Then they come, and keys that would open the
menu of the first of them. -/
theorem Opening.late_rows_are_dropped :
    let es := asked (sampleOpening.rounds sampleOracle [])
    let k : Key := ⟨.char 'l', true, false, false⟩
    .logout ∈ ((sampleOpening.after sampleOracle []).step sampleOracle
        sampleAnswers (.key k)).effects ∧
      (∀ v, (es.filterMap (·.request? v)).length ≤ 1) ∧ .fetch .events ⟨1, 1, 10, ""⟩ ∈ es ∧
      let t := play sampleOracle ((sampleOpening.after sampleOracle []).step sampleOracle
        sampleAnswers (.key k)).desk sampleChoice
      t.desk.workspace.view = none ∧ t.desk.workspace.user = none ∧ t.desk.capabilities = none ∧
        (∀ v, t.desk.rows v = []) ∧ t.desk.overlays = [] ∧ t.desk.menu = none ∧
        t.desk.sidebar.menu = [] ∧ t.desk.sidebar.visible = [] ∧
        ∀ e ∈ t.effects, e.isFetch = false ∧ e.change? = none := by
  intro es k
  have hout : .logout ∈
      ((sampleOpening.after sampleOracle []).step sampleOracle sampleAnswers (.key k)).effects := by
    decide +kernel
  have hone (v : Resource) : (es.filterMap (·.request? v)).length ≤ 1 := by
    cases v <;> decide +kernel
  have hfetch : .fetch .events ⟨1, 1, 10, ""⟩ ∈ es := by
    decide +kernel
  have hlate : ∀ y ∈ sampleChoice, ∀ v seq answer, y.input = .news (.loaded v seq answer) →
      ∃ r, .fetch v r ∈ es ∧ r.seq = seq := by
    intro y hy v seq answer hi
    rcases hy with _ | ⟨_, _ | ⟨_, _ | ⟨_, ⟨⟩⟩⟩⟩ <;> cases hi
    exact ⟨_, hfetch, rfl⟩
  exact ⟨hout, hone, hfetch, sampleOpening.nothing_after_logout sampleOracle [] sampleChoice
    sampleAnswers k rfl rfl hout (fun v ↦ (hone v).trans_lt (by decide)) hlate⟩

end Desk

end PitchDesk
