import PitchDesk.Proofs.Desk.Requests
import PitchDesk.Sample.Accounts

/-!
# The order of answers does not matter

Answers to the requests of several lists come in any order. Each is a `Reply`, known by the request
that it answers. What a desk is like after a reply, but for the notice that it shows, is told field
by field in `absorb_eq`, and from that two replies to different requests may change places,
`absorb_comm`. So all replies that come together may come in any order. The notice is left out,
since that of the last failure is the one that stays.

## What commuting rests on

Whether a reply is taken depends on the number of the latest request of its list, and no reply
changes that number (`outcome_absorb`). So of two replies to one list at most one is taken, and two
replies to different lists meet only in what belongs to the open view: the menu and the selected
row. There they agree because only one view is open. That replies to different requests have
different keys is a hypothesis on the replies; of two
answers to one request both would be taken, and the later one would stay.
-/

namespace PitchDesk

/-! ### Replies -/

/-- The answer to the request of a view's list with a number. -/
structure Reply where
  view : Resource
  seq : UInt64
  answer : Except String (Page Record)

namespace Reply

/-- The request that a reply answers. -/
def key (r : Reply) : Resource × UInt64 := (r.view, r.seq)

/-- A reply as the desk hears it. -/
def news (r : Reply) : News := .loaded r.view r.seq r.answer

/-- A reply as the list takes it. -/
def result (r : Reply) : Except Failure (Page Record) :=
  r.answer.mapError fun message ↦ ⟨message, []⟩

/-- The rows that a reply brings. -/
def rows (r : Reply) : List Record :=
  match r.answer with
  | .ok page => page.items
  | .error _ => []

end Reply

namespace Desk

attribute [ext] Desk

variable {o : Oracle} {d : Desk} {es : List Effect} {r s : Reply}

/-- A desk but for the notice that it shows. -/
def quiet (d : Desk) : Desk :=
  { d with workspace := { d.workspace with notice := none } }

/-- The desk after a reply, but for the notice. -/
def absorb (d : Desk) (r : Reply) : Desk :=
  (d.hear r.news).desk.quiet

/-- What becomes of a reply. -/
def outcome (d : Desk) (r : Reply) : Delivery :=
  ((d.list r.view).apply r.seq r.result).2

/-- Whether a reply brings other rows to the open view. -/
def Shows (d : Desk) (r : Reply) : Prop :=
  d.outcome r = .applied ∧ d.workspace.view = some r.view

instance (d : Desk) (r : Reply) : Decidable (d.Shows r) :=
  inferInstanceAs (Decidable (_ ∧ _))

/-- A reply that is accepted brings its rows to the list of its view. -/
theorem rows_of_applied (h : d.outcome r = .applied) :
    ((d.list r.view).apply r.seq r.result).1.rows = r.rows := by
  unfold outcome Reply.result at h
  unfold Reply.result Reply.rows
  by_cases hseq : r.seq = (d.list r.view).latest
  · rw [hseq] at h ⊢
    cases hanswer : r.answer with
    | ok page => exact congrArg (·.1.rows) (Listing.apply_ok _ page)
    | error message =>
      rw [hanswer] at h
      exact absurd ((congrArg Prod.snd (Listing.apply_error _ _)).symm.trans h) nofun
  · rw [Listing.apply_of_ne hseq] at h
    exact absurd h nofun

theorem rows_setList (d : Desk) (v : Resource) (l : Listing Record) :
    (d.setList v l).rows v = l.rows := by
  simp [rows, setList]

/-- **What a reply changes.** The list of its view takes it. If it brings other rows to the open
view, the menu closes and a row that is still there is selected; if it fails, a notice is shown. -/
theorem absorb_eq (d : Desk) (r : Reply) :
    d.absorb r =
      { d.quiet with
        lists := fun v ↦
          if v = r.view then some ((d.list r.view).apply r.seq r.result).1 else d.lists v
        selectedRow :=
          if d.Shows r then min d.selectedRow (r.rows.length - 1) else d.selectedRow
        menu := if d.Shows r then none else d.menu
        noticeToken := if d.outcome r = .failed then d.nextToken else d.noticeToken } := by
  show (d.receive r.view r.seq r.answer).desk.quiet = _
  dsimp only [receive]
  split
  · have houtcome : d.outcome r = .applied := ‹_›
    have hfailed : d.outcome r ≠ .failed := by rw [houtcome]; exact nofun
    rw [if_neg hfailed]
    by_cases hv : d.workspace.view = some r.view
    · -- the rows are those of the reply, whatever the list was like before
      have hview (l : Listing Record) : (d.setList r.view l).workspace.view = some r.view := hv
      rw [if_pos ⟨houtcome, hv⟩, if_pos ⟨houtcome, hv⟩, settle, if_pos (hview _), rows_setList,
        ← rows_of_applied houtcome]
      rfl
    · have hview (l : Listing Record) : (d.setList r.view l).workspace.view ≠ some r.view := hv
      rw [if_neg fun h ↦ hv h.2, if_neg fun h ↦ hv h.2, settle, if_neg (hview _)]
      rfl
  · have houtcome : d.outcome r = .failed := ‹_›
    have hshows : ¬d.Shows r := fun h ↦ nomatch houtcome.symm.trans h.1
    rw [if_neg hshows, if_neg hshows, if_pos houtcome]
    rfl
  · have houtcome : d.outcome r = .stale := ‹_›
    have hfailed : d.outcome r ≠ .failed := by rw [houtcome]; exact nofun
    have hshows : ¬d.Shows r := fun h ↦ nomatch houtcome.symm.trans h.1
    rw [if_neg hshows, if_neg hshows, if_neg hfailed]
    rfl

/-! ### Replies may change places -/

/-- A reply concerns the list of its view and no other. -/
theorem list_absorb (d : Desk) (r : Reply) (v : Resource) :
    (d.absorb r).list v =
      if v = r.view then ((d.list r.view).apply r.seq r.result).1 else d.list v := by
  rw [absorb_eq]
  by_cases h : v = r.view
  · simp [list, h]
  · simp [list, h, quiet]

/-- What becomes of a reply does not depend on the replies before it. -/
@[simp]
theorem outcome_absorb (d : Desk) (r s : Reply) : (d.absorb r).outcome s = d.outcome s := by
  rw [outcome, list_absorb]
  split
  · rename_i h
    rw [outcome, h, Listing.delivery_apply_apply]
  · rfl

@[simp]
theorem shows_absorb (d : Desk) (r s : Reply) : (d.absorb r).Shows s ↔ d.Shows s := by
  have hview : (d.absorb r).workspace.view = d.workspace.view := by rw [absorb_eq]; rfl
  rw [Shows, Shows, outcome_absorb, hview]

/-- Two replies to different requests leave the same lists in either order. -/
theorem lists_absorb_comm (d : Desk) (h : r.key ≠ s.key) :
    ((d.absorb r).absorb s).lists = ((d.absorb s).absorb r).lists := by
  funext v
  rw [absorb_eq (d.absorb r), absorb_eq (d.absorb s)]
  simp only [list_absorb]
  rw [absorb_eq d r, absorb_eq d s]
  by_cases hviews : r.view = s.view
  · -- one list: the replies have different numbers, and at most one of them is accepted
    have hseqs : r.seq ≠ s.seq := fun hseq ↦ h (Prod.ext hviews hseq)
    simp only [hviews, if_true, Listing.apply_comm _ hseqs]
    split <;> rfl
  · -- two lists: each reply changes its own
    simp only [hviews, Ne.symm hviews, if_false]
    by_cases hr : v = r.view
    · simp [hr, hviews]
    · simp [hr]

/-- **Replies to different requests may change places.** -/
theorem absorb_comm (d : Desk) (h : r.key ≠ s.key) :
    (d.absorb r).absorb s = (d.absorb s).absorb r := by
  apply Desk.ext
  case lists => exact lists_absorb_comm d h
  case selectedRow =>
    simp only [absorb_eq (d.absorb _), shows_absorb]
    simp only [absorb_eq d]
    split_ifs
    · -- a row that two pages have is sought in both, whichever comes first
      omega
    · rfl
    · rfl
    · rfl
  case menu =>
    simp only [absorb_eq (d.absorb _), shows_absorb]
    simp only [absorb_eq d]
    split_ifs <;> rfl
  case noticeToken =>
    simp only [absorb_eq (d.absorb _), outcome_absorb]
    simp only [nextToken, absorb_eq d]
    split_ifs <;> rfl
  all_goals
    simp only [absorb_eq]
    rfl

/-! ### Any order -/

/-- A reply is taken in the same way whatever notice is shown. -/
@[simp]
theorem absorb_quiet (d : Desk) (r : Reply) : d.quiet.absorb r = d.absorb r := by
  rw [absorb_eq, absorb_eq]
  rfl

theorem desk_hearAll (d : Desk) (news : List News) :
    (d.hearAll news).desk = news.foldl (fun d n ↦ (d.hear n).desk) d := by
  have hfold (t : Turn) :
      (news.foldl (fun t n ↦ t.andThen (·.hear n)) t).desk =
        news.foldl (fun d n ↦ (d.hear n).desk) t.desk := by
    induction news generalizing t with
    | nil => rfl
    | cons n news ih => exact ih (t.andThen (·.hear n))
  exact hfold d.idle

/-- Replies are taken one after the other, but for the notices. -/
theorem quiet_hearAll (d : Desk) (replies : List Reply) :
    (d.hearAll (replies.map Reply.news)).desk.quiet = replies.foldl absorb d.quiet := by
  rw [desk_hearAll, List.foldl_map]
  induction replies generalizing d with
  | nil => rfl
  | cons r replies ih => rw [List.foldl_cons, List.foldl_cons, ih, absorb_quiet, absorb]

/-- Replies to different requests may come in any order. -/
theorem quiet_hearAll_perm (d : Desk) {replies replies' : List Reply}
    (hperm : replies.Perm replies') (hkeys : (replies.map Reply.key).Nodup) :
    (d.hearAll (replies.map Reply.news)).desk.quiet =
      (d.hearAll (replies'.map Reply.news)).desk.quiet := by
  rw [quiet_hearAll, quiet_hearAll]
  refine hperm.foldl_eq' (fun r hr s hs d ↦ ?_) d.quiet
  by_cases h : r.key = s.key
  · rw [List.inj_on_of_nodup_map hkeys hr hs h]
  · exact absorb_comm d h

/-- Replies to other than the latest request of a view leave its list alone. -/
theorem list_foldl_absorb {v : Resource} {replies : List Reply}
    (h : ∀ r ∈ replies, r.key ≠ (v, (d.list v).latest)) :
    (replies.foldl absorb d).list v = d.list v := by
  induction replies generalizing d with
  | nil => rfl
  | cons r replies ih =>
    have hr : (d.absorb r).list v = d.list v := by
      rw [list_absorb]
      split
      · subst v
        rw [Listing.apply_of_ne]
        exact fun hseq ↦ h r (List.mem_cons_self ..) (Prod.ext rfl hseq)
      · rfl
    rw [List.foldl_cons, ih, hr]
    intro s hs
    rw [hr]
    exact h s (List.mem_cons_of_mem r hs)

/-- The reply to the latest request of a view is what its list ends with. -/
theorem list_hearAll (d : Desk) {r : Reply} {replies : List Reply} (hr : r ∈ replies)
    (hkeys : (replies.map Reply.key).Nodup) (hlatest : r.seq = (d.list r.view).latest) :
    (d.hearAll (replies.map Reply.news)).desk.list r.view =
      ((d.list r.view).apply r.seq r.result).1 := by
  -- the order does not matter, so let this reply come first: all others leave its list alone
  obtain ⟨before, after, rfl⟩ := List.append_of_mem hr
  have hperm : (before ++ r :: after).Perm (r :: (before ++ after)) := List.perm_middle
  have hothers : r.key ∉ (before ++ after).map Reply.key :=
    (List.nodup_cons.1 ((hperm.map Reply.key).nodup_iff.1 hkeys)).1
  have hfirst : (d.absorb r).list r.view = ((d.list r.view).apply r.seq r.result).1 := by
    rw [list_absorb, if_pos rfl]
  calc (d.hearAll ((before ++ r :: after).map Reply.news)).desk.list r.view
      = (d.hearAll ((before ++ r :: after).map Reply.news)).desk.quiet.list r.view := rfl
    _ = ((before ++ after).foldl absorb (d.absorb r)).list r.view := by
      rw [quiet_hearAll_perm d hperm hkeys, quiet_hearAll, List.foldl_cons, absorb_quiet]
    _ = (d.absorb r).list r.view := by
      refine list_foldl_absorb fun s hs hkey ↦ hothers ?_
      rw [hfirst, Listing.latest_apply, ← hlatest] at hkey
      exact List.mem_map.2 ⟨s, hs, hkey⟩
    _ = ((d.list r.view).apply r.seq r.result).1 := hfirst

/-- **The order of answers does not matter.** Along every run, replies to different requests leave
the same lists, the same selected row, the same menu and the same things over the screen, whatever
the order in which they come. The list of a view ends with the reply to its latest request if that
is among them: with its rows and totals under the query of that request, or with its message and
everything else as it was. -/
theorem Run.hearAll_perm (h : Run o d es) {replies replies' : List Reply}
    (hperm : replies.Perm replies') (hkeys : (replies.map Reply.key).Nodup) :
    (d.hearAll (replies.map Reply.news)).desk.lists =
      (d.hearAll (replies'.map Reply.news)).desk.lists ∧
    (d.hearAll (replies.map Reply.news)).desk.selectedRow =
      (d.hearAll (replies'.map Reply.news)).desk.selectedRow ∧
    (d.hearAll (replies.map Reply.news)).desk.menu =
      (d.hearAll (replies'.map Reply.news)).desk.menu ∧
    (d.hearAll (replies.map Reply.news)).desk.overlays =
      (d.hearAll (replies'.map Reply.news)).desk.overlays ∧
    ∀ v r, (requestsOf v es).getLast? = some r →
      (∀ page, ⟨v, r.seq, .ok page⟩ ∈ replies →
        (d.hearAll (replies.map Reply.news)).desk.list v =
          { d.list v with
            rows := page.items
            totalItems := page.totalItems
            query := ⟨r.page, r.pageSize, r.search, max (page.totalPages.getD 1) 1⟩
            state := .loaded }) ∧
      ∀ message, ⟨v, r.seq, .error message⟩ ∈ replies →
        (d.hearAll (replies.map Reply.news)).desk.list v =
          { d.list v with state := .failed message } := by
  have hquiet := quiet_hearAll_perm d hperm hkeys
  have hlists := congrArg lists hquiet
  have hselected := congrArg selectedRow hquiet
  have hmenu := congrArg menu hquiet
  have hoverlays := congrArg overlays hquiet
  refine ⟨hlists, hselected, hmenu, hoverlays, fun v r hlast ↦ ?_⟩
  -- the latest request is what the query of the list still stands for
  obtain rfl := (h.numbered v).request r hlast
  refine ⟨fun page hr ↦ ?_, fun message hr ↦ ?_⟩
  · rw [list_hearAll d hr hkeys rfl]
    exact congrArg Prod.fst (Listing.apply_ok _ page)
  · rw [list_hearAll d hr hkeys rfl]
    exact congrArg Prod.fst (Listing.apply_error _ _)

/-- The events are asked for twice, and the failure of the first request comes before or after the
answer to the second: the lists are the same, and the answer is shown. -/
theorem Run.late_failure_is_not_shown :
    ∃ d es, Run (Sample.rootSession .admin).oracle d es ∧
      (requestsOf .events es).map (·.seq) = [1, 2] ∧
      (d.hearAll [.loaded .events 1 (.error "timeout"),
        .loaded .events 2 (.ok ⟨[], some 7, some 3⟩)]).desk.lists =
      (d.hearAll [.loaded .events 2 (.ok ⟨[], some 7, some 3⟩),
        .loaded .events 1 (.error "timeout")]).desk.lists ∧
      ((d.hearAll [.loaded .events 1 (.error "timeout"),
        .loaded .events 2 (.ok ⟨[], some 7, some 3⟩)]).desk.list .events).totalItems = some 7 := by
  have h := Run.step
    (.start ⟨.ok (), .ok (), .ok (), .ok (), 0, fun _ ↦ none⟩ {}
      ⟨.server, [.node (Sample.menuRecord 1 "events" "/events" none 1) []]⟩ 10 rfl)
    ⟨.ok (), .ok (), .ok (), .ok (), 0, fun _ ↦ none⟩ (.key ⟨.char 'R', false, false, false⟩)
    (o := (Sample.rootSession .admin).oracle)
  obtain ⟨hlists, -, -, -, hlatest⟩ := h.hearAll_perm
    (.swap (⟨.events, 2, .ok ⟨[], some 7, some 3⟩⟩ : Reply) ⟨.events, 1, .error "timeout"⟩ [])
    (by decide)
  have hshown := (hlatest .events ⟨2, 1, 10, ""⟩ rfl).1 _
    (List.mem_cons_of_mem _ (List.mem_cons_self ..))
  exact ⟨_, _, h, rfl, hlists, congrArg Listing.totalItems hshown⟩

end Desk

end PitchDesk
