import PitchDesk.Proofs.Desk.Turns
import PitchDesk.Proofs.RowAction

/-!
# Questions before a change

No row is deleted and no document is uploaded before a question about it was answered. A `Question`
is what both kinds of questions have in common: what is to be done with which row. A turn that has
nothing to do with questions is `Silent`; all others pose a question or settle one, `step_cases`.
So a question that is open after a turn was open before, or the turn poses it,
`mem_questions_step`, and a row is changed only by settling a question, `exists_settles`, which is
then no longer open, `filter_changes_of_mem_questions`.

## Moves are not enough

The moves of a turn say that a row is deleted while a question is open and that a question is posed
by choosing from a menu. They do not say that a turn does only one of these: a turn that posed a
question and settled it at once would consist of such moves too. So `step_cases` goes through the
handlers that can choose or confirm, and `Moves.silent` disposes of all the others, since their
moves can do neither.

What has been typed for a document is no part of its question: while the path is typed the question
stays the same, and it can be said that it has been open ever since.
-/

namespace PitchDesk

/-- A question that is answered before a row is changed: what is to be done with which row. -/
structure Question where
  action : RowAction
  view : Resource
  id : Int64
  title : String
  deriving DecidableEq, Repr

/-- The question whether a row is to be deleted. -/
def PendingDelete.question (p : PendingDelete) : Question :=
  ⟨.delete, p.view, p.id, p.title⟩

/-- The question which document is to be uploaded for a row, whatever has been typed so far. -/
def UploadPrompt.question (p : UploadPrompt) : Question :=
  ⟨.uploadDocument, p.view, p.id, p.title⟩

/-- What an effect does with which row, if it changes one. -/
def Effect.change? : Effect → Option (RowAction × Resource × Int64)
  | .delete v id => some (.delete, v, id)
  | .upload v id _ => some (.uploadDocument, v, id)
  | _ => none

/-- Whether an effect does something of a kind with a row. -/
def Effect.changes (action : RowAction) (e : Effect) : Bool :=
  e.change?.any fun (done, _, _) ↦ done == action

/-- Whether an effect asks for a page. -/
def Effect.isFetch : Effect → Bool
  | .fetch _ _ => true
  | _ => false

namespace Desk

/-- The questions that are open. -/
def questions (d : Desk) : List Question :=
  (d.confirm.map (·.question)).toList ++ (d.upload.map (·.question)).toList

variable {o : Oracle} {a : Answers} {d d' : Desk} {i : Input} {e : Effect} {q : Question}

/-- An open question is one whether to delete a row, or one which document to upload. -/
theorem mem_questions :
    q ∈ d.questions ↔
      (∃ p, d.confirm = some p ∧ p.question = q) ∨ ∃ p, d.upload = some p ∧ p.question = q := by
  simp [questions]

/-- What changes no row does nothing of any kind with one. -/
theorem filter_changes_eq_nil {es : List Effect} {action : RowAction}
    (h : ∀ e ∈ es, e.change? = none) : es.filter (·.changes action) = [] :=
  List.filter_eq_nil_iff.2 fun e he ↦ by simp [Effect.changes, h e he]

/-! ### Silent turns -/

/-- What a turn leads to and asks for, if it changes no row and poses no question. -/
structure Silent (d d' : Desk) (es : List Effect) : Prop where
  questions : d'.questions ⊆ d.questions
  change? : ∀ e ∈ es, e.change? = none

theorem Silent.append {d'' : Desk} {es es' : List Effect} (h : Silent d d' es)
    (h' : Silent d' d'' es') : Silent d d'' (es ++ es') where
  questions := List.Subset.trans h'.questions h.questions
  change? e he := (List.mem_append.1 he).elim (h.change? e) (h'.change? e)

/-- What leaves both questions alone and changes no row is silent. -/
theorem silent_of_eq {es : List Effect} (hconfirm : d'.confirm = d.confirm)
    (hupload : d'.upload = d.upload) (hes : ∀ e ∈ es, e.change? = none) : Silent d d' es where
  questions := by rw [questions, hconfirm, hupload]; exact List.Subset.refl _
  change? := hes

/-- Nothing happens to questions. -/
theorem silent_nil (hconfirm : d'.confirm = d.confirm) (hupload : d'.upload = d.upload) :
    Silent d d' [] :=
  silent_of_eq hconfirm hupload (by simp)

theorem silent_notify (d : Desk) (kind : NoticeKind) (message : String) :
    Silent d (d.notify kind message).desk (d.notify kind message).effects :=
  silent_of_eq rfl rfl (by simp [notify, Effect.change?])

/-- What no key leads to, and nothing that chooses from a menu, is silent. -/
theorem Move.silent {c : Option Input} {es : List Effect} (h : Move o a c d d' es)
    (hkey : ∀ k, c ≠ some (.key k)) (hchosen : ∀ d : Desk, c.bind d.chosen? = none) :
    Silent d d' es := by
  have hnone : ∀ e ∈ ([] : List Effect), e.change? = none := by simp
  have hone {e : Effect} (he : e.change? = none) : ∀ e' ∈ [e], e'.change? = none := by
    simpa using he
  -- a question opens or is answered only with a key or a choice, and when one closes none opens
  cases h with
  | askUpload _ _ _ h => rw [hchosen d] at h; cases h
  | askDelete _ _ _ h => rw [hchosen d] at h; cases h
  | upload _ hi => exact absurd hi (hkey _)
  | delete _ hi => exact absurd hi (hkey _)
  | notify => exact silent_of_eq rfl rfl (hone rfl)
  | remind => exact silent_of_eq rfl rfl (hone rfl)
  | toggleSidebar => exact silent_of_eq rfl rfl (hone rfl)
  | request => exact silent_of_eq rfl rfl (hone rfl)
  | logout => exact silent_of_eq rfl rfl (hone rfl)
  | typePath path hp =>
    refine ⟨fun q hq ↦ ?_, hnone⟩
    rcases mem_questions.1 hq with hconfirm | ⟨p, hp', rfl⟩
    · exact mem_questions.2 (.inl hconfirm)
    · cases hp'
      exact mem_questions.2 (.inr ⟨_, hp, rfl⟩)
  | cancelUpload => exact ⟨List.subset_append_of_subset_left _ (by simp [questions]), hnone⟩
  | cancelDelete => exact ⟨List.subset_append_of_subset_right _ (by simp [questions]), hnone⟩
  | @receive v seq answer =>
    obtain ⟨row, menu, notice, token, hreceive⟩ := exists_receive_eq d v seq answer
    refine silent_of_eq (by rw [hreceive]; rfl) (by rw [hreceive]; rfl) ?_
    dsimp only [Desk.receive]
    split
    · exact hnone
    · exact hone rfl
    · exact hnone
  | _ => exact silent_nil rfl rfl

/-- Moves of a turn that no key leads to, and that chooses nothing, are silent. -/
theorem Moves.silent {c : Option Input} {es : List Effect} (h : Moves o a c d d' es)
    (hkey : ∀ k, c ≠ some (.key k)) (hchosen : ∀ d : Desk, c.bind d.chosen? = none) :
    Silent d d' es := by
  induction h with
  | nil d => exact silent_nil rfl rfl
  | cons hm _ ih => exact (hm.silent hkey hchosen).append ih

/-- What a turn does whatever has happened has nothing to do with questions. -/
theorem Makes.silent {t : Turn} (h : Makes o a none d t) : Silent d t.desk t.effects :=
  Moves.silent h nofun fun _ ↦ rfl

/-! ### Choosing from a menu -/

/-- What happens poses a question about a row of the open view: what the question is about is chosen
from the menu of that row, while nothing lies over the screen, and the service knows the row. -/
structure Poses (d : Desk) (i : Input) (q : Question) (r : Record) : Prop where
  free : d.overlays = []
  view : d.workspace.view = some q.view
  menu : ∃ row caps, (d.rows q.view)[row]? = some r ∧ d.capabilities = some caps ∧
    d.openMenu? = some (row, r.actions caps)
  chosen : d.chosen? i = some q.action
  id : r.id? = some q.id
  title : r.title = q.title

/-- What is chosen from a menu is one of its items. -/
theorem mem_of_select? {dropdown : Dropdown} {menu : ActionMenu RowAction} {item : Nat}
    {action : RowAction} (h : dropdown.select? menu item = some action) :
    action ∈ menu.items.map (·.action) := by
  obtain ⟨m, -, hm⟩ := Option.bind_eq_some_iff.1 h
  obtain ⟨x, hx, rfl⟩ := Option.map_eq_some_iff.1 hm
  exact List.mem_map_of_mem (List.mem_of_getElem? hx)

/-- What a question is about is something that may be done to its row. -/
theorem Poses.allows {r : Record} {caps : Capabilities} (h : d.Poses i q r)
    (hcaps : d.capabilities = some caps) : r.allows caps q.action = true := by
  obtain ⟨row, caps', -, hcaps', hopen⟩ := h.menu
  obtain rfl := Option.some.inj (hcaps.symm.trans hcaps')
  obtain ⟨x, hx, hchosen⟩ := Option.bind_eq_some_iff.1 h.chosen
  obtain rfl := Option.some.inj (hopen.symm.trans hx)
  obtain ⟨item, -, hselect⟩ := Option.bind_eq_some_iff.1 hchosen
  exact Record.mem_actions.1 (mem_of_select? hselect)

/-- Choosing an item poses a question, which is the only one that was not open before, or it has
nothing to do with questions. -/
theorem chooseItem_cases {row item : Nat} {menu : ActionMenu RowAction} (hfree : d.overlays = [])
    (hopen : d.openMenu? = some (row, menu)) (hitem : d.chosenItem? i = some item) :
    Silent d (d.chooseItem row menu item).desk (d.chooseItem row menu item).effects ∨
    ∃ q r, d.Poses i q r ∧ (d.chooseItem row menu item).desk.questions ⊆ q :: d.questions ∧
      (d.chooseItem row menu item).effects = [] := by
  obtain ⟨v, caps, r, hv, hcaps, -, hr, rfl⟩ := openMenu?_eq_some hopen
  unfold chooseItem
  cases hselect : d.menu.select? (r.actions caps) item with
  | none => exact .inl (silent_nil rfl rfl)
  | some action =>
    have hchosen : d.chosen? i = some action := by simp [chosen?, hopen, hitem, hselect]
    have hposes {id : Int64} (hid : r.id? = some id) : d.Poses i ⟨action, v, id, r.title⟩ r :=
      ⟨hfree, hv, ⟨row, caps, hr, hcaps, hopen⟩, hchosen, hid, rfl⟩
    have hnotify (kind : NoticeKind) (message : String) :
        Silent d (d.closeMenu.notify kind message).desk (d.closeMenu.notify kind message).effects :=
      (silent_nil rfl rfl : Silent d d.closeMenu []).append (silent_notify _ _ _)
    have hv' : d.closeMenu.workspace.view = some v := hv
    have hr' : (d.closeMenu.rows v)[row]? = some r := hr
    simp only [runAction, hv', hr']
    -- only the items with a question of their own do more than notify
    cases action with
    | view =>
      simp only [openDetail, hr']
      exact .inl (silent_nil rfl rfl)
    | delete =>
      cases hid : r.id? with
      | none => exact .inl (hnotify _ _)
      | some id =>
        refine .inr ⟨_, r, hposes hid, fun q hq ↦ ?_, rfl⟩
        rcases mem_questions.1 hq with ⟨p, hp, rfl⟩ | hupload
        · cases hp
          exact List.mem_cons_self ..
        · exact List.mem_cons_of_mem _ (mem_questions.2 (.inr hupload))
    | uploadDocument =>
      cases hid : r.id? with
      | none => exact .inl (hnotify _ _)
      | some id =>
        refine .inr ⟨_, r, hposes hid, fun q hq ↦ ?_, rfl⟩
        rcases mem_questions.1 hq with hconfirm | ⟨p, hp, rfl⟩
        · exact List.mem_cons_of_mem _ (mem_questions.2 (.inl hconfirm))
        · cases hp
          exact List.mem_cons_self ..
    | edit => exact .inl (hnotify _ _)
    | shortlist => exact .inl (hnotify _ _)
    | markWinner => exact .inl (hnotify _ _)
    | exportRow => exact .inl (hnotify _ _)

/-! ### What a turn does with questions -/

/-- A key in the open menu has nothing to do with questions, or it chooses the highlighted item. -/
theorem menuKey_cases (d : Desk) (k : Key) :
    Silent d (d.menuKey k).desk (d.menuKey k).effects ∨
    ∃ row menu item, d.openMenu? = some (row, menu) ∧ d.chosenItem? (.key k) = some item ∧
      d.menuKey k = d.chooseItem row menu item := by
  unfold menuKey
  split
  · exact .inl (silent_nil rfl rfl)
  · rename_i row menu hopen
    split
    · exact .inl (silent_nil rfl rfl)
    · exact .inl (silent_nil rfl rfl)
    · exact .inl (silent_nil rfl rfl)
    · exact .inl (silent_nil rfl rfl)
    · exact .inl (silent_nil rfl rfl)
    · exact .inr ⟨row, menu, _, hopen, chosenItem?_enter hopen ‹_›, rfl⟩
    · exact .inl (silent_nil rfl rfl)

/-- A press has nothing to do with questions, or it chooses the item that it is on. -/
theorem press_cases (o : Oracle) (a : Answers) (d : Desk) (column row : Nat) :
    Silent d (d.press o a column row).desk (d.press o a column row).effects ∨
    ∃ r menu item, d.overlays = [] ∧ d.openMenu? = some (r, menu) ∧
      d.chosenItem? (.mouse (.press column row)) = some item ∧
      d.press o a column row = d.chooseItem r menu item := by
  dsimp only [press]
  split
  · exact .inl (silent_nil rfl rfl)
  · rename_i hoverlay
    have hfree := overlays_eq_nil (Option.not_isSome_iff_eq_none.1 hoverlay)
    generalize htarget : (TableAreas.ofPane d.panes.table).target d.menu column row = target
    -- only a press on an item chooses, and such a press leaves the menu open
    cases hkeeps : target.keepsMenu with
    | true =>
      simp only [if_true]
      split
      · exact .inl (makes_pressSidebar (o := o) (a := a) (i := none) d _ row).silent
      · rename_i v _ hv
        by_cases hitem : ∃ r item, target = .actionItem r item
        · obtain ⟨r, item, rfl⟩ := hitem
          have hchosen : d.chosenItem? (.mouse (.press column row)) = some item := by
            simp [chosenItem?, htarget]
          rcases pressTable_actionItem (row?_of_target htarget) v item with hidle | ⟨menu, hchoose⟩
          · rw [hidle]
            exact .inl (silent_nil rfl rfl)
          · exact .inr ⟨r, menu, item, hfree, hchoose.1, hchosen, hchoose.2⟩
        · refine .inl (makes_pressTable (o := o) (a := a) (i := none) hfree hv
            (by simp [hkeeps]) ?_).silent
          exact fun r item h ↦ absurd ⟨r, item, h⟩ hitem
      · exact .inl (silent_nil rfl rfl)
    | false =>
      have hclosed : Silent d d.closeMenu [] := silent_nil rfl rfl
      simp only [Bool.false_eq_true, if_false]
      split
      · exact .inl (hclosed.append (makes_pressSidebar (o := o) (a := a) d.closeMenu _ row).silent)
      · refine .inl (hclosed.append
          (makes_pressTable (o := o) (a := a) (d := d.closeMenu) hfree ‹_› (fun _ ↦ rfl) ?_).silent)
        rintro r item rfl
        cases hkeeps
      · exact .inl hclosed

/-- A key that goes to the question whether to delete a row deletes it, or has nothing to do with
questions. -/
theorem confirmKey_cases (a : Answers) (d : Desk) (p : PendingDelete) (k : Key) :
    Silent d (d.confirmKey a p k).desk (d.confirmKey a p k).effects ∨
    (k.code = .char 'y' ∨ k.code = .char 'Y') ∧
      d.confirmKey a p k = deleteRow a { d with confirm := none } p := by
  have hclosed : Silent d { d with confirm := none } [] :=
    ⟨fun q hq ↦ mem_questions.2 (.inr (by simpa [mem_questions] using hq)), by simp⟩
  unfold confirmKey
  split
  · exact .inr ⟨.inl ‹_›, rfl⟩
  · exact .inr ⟨.inr ‹_›, rfl⟩
  · exact .inl hclosed
  · exact .inl hclosed
  · exact .inl hclosed
  · exact .inl (silent_nil rfl rfl)

/-- A key that goes to the question for a document uploads one that is accepted, or has nothing to
do with questions. -/
theorem uploadKey_cases (a : Answers) {p : UploadPrompt} (hp : d.upload = some p) (k : Key) :
    Silent d (d.uploadKey a p k).desk (d.uploadKey a p k).effects ∨
    k.code = .enter ∧ (p.file a).check a.maxUploadBytes = .ok () ∧
      d.uploadKey a p k = submitUpload a { d with upload := none } p := by
  have hclosed : Silent d { d with upload := none } [] :=
    ⟨fun q hq ↦ mem_questions.2 (.inl (by simpa [mem_questions] using hq)), by simp⟩
  have htype (text : List Char) :
      Silent d { d with upload := some { p with path := String.ofList text } } [] := by
    refine ⟨fun q hq ↦ ?_, by simp⟩
    rw [questions, hp]
    exact hq
  dsimp only [uploadKey]
  split
  · exact .inl hclosed
  · exact .inl (htype _)
  · rename_i hk
    cases hu : (p.file a).check a.maxUploadBytes with
    | error cause =>
      rw [submitUpload_of_error hu]
      exact .inl (hclosed.append (silent_notify _ _ _))
    | ok _ => exact .inr ⟨hk, rfl, rfl⟩
  · split
    · exact .inl (htype _)
    · exact .inl (silent_nil rfl rfl)

/-- A key answers an open question with a change to its row, and the turn that follows. -/
inductive Settles (a : Answers) (d : Desk) : Input → Question → Effect → Turn → Prop
  | delete {k : Key} {p : PendingDelete} (hk : k.code = .char 'y' ∨ k.code = .char 'Y')
      (hp : d.confirm = some p) :
      Settles a d (.key k) p.question (.delete p.view p.id)
        (deleteRow a { d with confirm := none } p)
  | upload {k : Key} {p : UploadPrompt} (hk : k.code = .enter) (hp : d.upload = some p)
      (hu : (p.file a).check a.maxUploadBytes = .ok ()) :
      Settles a d (.key k) p.question (.upload p.view p.id (p.file a))
        (submitUpload a { d with upload := none } p)

/-- **What a turn does with questions.** It has nothing to do with them, or it poses one, or it
settles one. -/
theorem step_cases (o : Oracle) (a : Answers) (d : Desk) (i : Input) :
    Silent d (d.step o a i).desk (d.step o a i).effects ∨
    (∃ q r, d.Poses i q r ∧ (d.step o a i).desk.questions ⊆ q :: d.questions ∧
      (d.step o a i).effects = []) ∨
    ∃ q e, d.Settles a i q e (d.step o a i) := by
  -- questions are settled by keys over the screen alone, and posed by what chooses from the menu
  cases i with
  | key k =>
    simp only [step, key]
    split
    · exact .inl (silent_nil rfl rfl)
    · split
      · rename_i p hoverlay
        rcases d.confirmKey_cases a p k with hsilent | ⟨hk, hdelete⟩
        · exact .inl hsilent
        · rw [hdelete]
          exact .inr (.inr ⟨_, _, .delete hk (confirm_of_overlay hoverlay)⟩)
      · rename_i p hoverlay
        rcases uploadKey_cases a (upload_of_overlay hoverlay) k with hsilent | ⟨hk, hu, hupload⟩
        · exact .inl hsilent
        · rw [hupload]
          exact .inr (.inr ⟨_, _, .upload hk (upload_of_overlay hoverlay) hu⟩)
      · exact .inl (makes_detailKey (o := o) (a := a) d k).silent
      · have hfree := overlays_eq_nil ‹d.overlay = none›
        cases hmenu : d.menu with
        | none => exact .inl (makes_freeKey hfree hmenu k).silent
        | some m =>
          simp only [Option.isSome_some, if_true]
          rcases d.menuKey_cases k with hsilent | ⟨row, menu, item, hopen, hitem, hchoose⟩
          · exact .inl hsilent
          · rw [hchoose]
            exact (chooseItem_cases hfree hopen hitem).imp_right .inl
  | mouse m =>
    cases m with
    | press column row =>
      simp only [step, mouse]
      rcases d.press_cases o a column row with
        hsilent | ⟨r, menu, item, hfree, hopen, hitem, hchoose⟩
      · exact .inl hsilent
      · rw [hchoose]
        exact (chooseItem_cases hfree hopen hitem).imp_right .inl
    | scroll => exact .inl (silent_nil rfl rfl)
    | other => exact .inl (silent_nil rfl rfl)
  | news n =>
    refine .inl (Moves.silent (makes_hear (o := o) (a := a) d n) nofun fun d ↦ ?_)
    simp [chosen?, chosenItem?]
  | resized => exact .inl (silent_nil rfl rfl)
  | measured width height => exact .inl (silent_nil rfl rfl)

/-! ### Settling a question -/

variable {t : Turn}

/-- A question that is settled was open. -/
theorem Settles.mem_questions (h : d.Settles a i q e t) : q ∈ d.questions := by
  cases h with
  | delete hk hp => exact Desk.mem_questions.2 (.inl ⟨_, hp, rfl⟩)
  | upload hk hp => exact Desk.mem_questions.2 (.inr ⟨_, hp, rfl⟩)

/-- The change that settles a question is the one that it is about. -/
theorem Settles.change? (h : d.Settles a i q e t) : e.change? = some (q.action, q.view, q.id) := by
  cases h <;> rfl

/-- What comes of a change is silent: no other change follows, and no question. -/
theorem silent_report (a : Answers) (d : Desk) (v : Resource) (answer : Except Failure Unit)
    (success failure : String) :
    Silent d (d.report a v answer success failure).desk
      (d.report a v answer success failure).effects :=
  (makes_report (o := ⟨fun _ _ ↦ false, none⟩) d v answer success failure).silent

/-- The question is not open any more, and no other is open that was not open before. -/
theorem Settles.of_mem_questions {q' : Question} (h : d.Settles a i q e t)
    (hq' : q' ∈ t.desk.questions) : q' ∈ d.questions ∧ q'.action ≠ q.action := by
  cases h with
  | @delete k p hk hp =>
    rw [deleteRow_eq_andThen] at hq'
    have hleft := (silent_report a _ _ _ _ _).questions hq'
    obtain ⟨p', hp', rfl⟩ : ∃ p', d.upload = some p' ∧ p'.question = q' := by
      simpa [Desk.mem_questions] using hleft
    exact ⟨Desk.mem_questions.2 (.inr ⟨p', hp', rfl⟩), nofun⟩
  | @upload k p hk hp hu =>
    rw [submitUpload_of_ok hu] at hq'
    have hleft := (silent_report a _ _ _ _ _).questions hq'
    obtain ⟨p', hp', rfl⟩ : ∃ p', d.confirm = some p' ∧ p'.question = q' := by
      simpa [Desk.mem_questions] using hleft
    exact ⟨Desk.mem_questions.2 (.inl ⟨p', hp', rfl⟩), nofun⟩

/-- No other change is made. -/
theorem Settles.exists_effects (h : d.Settles a i q e t) :
    ∃ es, t.effects = e :: es ∧ ∀ e' ∈ es, e'.change? = none := by
  cases h with
  | @delete k p hk hp =>
    rw [deleteRow_eq_andThen]
    exact ⟨_, rfl, (silent_report a _ _ _ _ _).change?⟩
  | @upload k p hk hp hu =>
    rw [submitUpload_of_ok hu]
    exact ⟨_, rfl, (silent_report a _ _ _ _ _).change?⟩

/-- A question that is open after a turn was open before, or the turn poses it. -/
theorem mem_questions_step (h : q ∈ (d.step o a i).desk.questions) :
    q ∈ d.questions ∨ ∃ r, d.Poses i q r := by
  rcases d.step_cases o a i with hsilent | ⟨q', r, hposes, hquestions, -⟩ | ⟨q', e, hsettles⟩
  · exact .inl (hsilent.questions h)
  · rcases List.mem_cons.1 (hquestions h) with rfl | hq
    · exact .inr ⟨r, hposes⟩
    · exact .inl hq
  · exact .inl (hsettles.of_mem_questions h).1

/-- A row is changed only in answer to an open question. -/
theorem exists_settles (he : e ∈ (d.step o a i).effects) (hchange : e.change? ≠ none) :
    ∃ q, d.Settles a i q e (d.step o a i) := by
  rcases d.step_cases o a i with hsilent | ⟨q, r, -, -, heffects⟩ | ⟨q, e', hsettles⟩
  · exact absurd (hsilent.change? e he) hchange
  · rw [heffects] at he
    cases he
  · obtain ⟨es, heffects, hes⟩ := hsettles.exists_effects
    rw [heffects] at he
    rcases List.mem_cons.1 he with rfl | he
    · exact ⟨q, hsettles⟩
    · exact absurd (hes e he) hchange

/-- The turn does with rows what was asked, and nothing else. -/
theorem Settles.filter_changes (h : d.Settles a i q e t) (action : RowAction) :
    t.effects.filter (·.changes action) = if q.action = action then [e] else [] := by
  obtain ⟨es, heffects, hes⟩ := h.exists_effects
  rw [heffects, List.filter_cons, filter_changes_eq_nil hes]
  simp [Effect.changes, h.change?]

/-- While a question is open, nothing of its kind is done. -/
theorem filter_changes_of_mem_questions (h : q ∈ (d.step o a i).desk.questions) :
    (d.step o a i).effects.filter (·.changes q.action) = [] := by
  rcases d.step_cases o a i with hsilent | ⟨q', r, -, -, heffects⟩ | ⟨q', e, hsettles⟩
  · exact filter_changes_eq_nil hsilent.change?
  · rw [heffects]
    rfl
  · rw [hsettles.filter_changes, if_neg (hsettles.of_mem_questions h).2.symm]

end Desk

end PitchDesk
