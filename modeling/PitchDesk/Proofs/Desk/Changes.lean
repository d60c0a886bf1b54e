import PitchDesk.Proofs.Desk.Access
import PitchDesk.Proofs.Desk.Questions
import PitchDesk.Proofs.Desk.Session

/-!
# Changes were asked for

Rows are deleted and documents are uploaded at the end of a dialogue that takes several turns, and
between them lists are replaced, notices come and go, and the size of the screen changes. What
holds the dialogue together is its question: it was posed by choosing from the menu of a row, and
it has been open ever since, `Opening.exists_asked`. Since the menu of a row has what the rules
allow, so does the question, and the change is exactly what the user has asked for,
`Opening.changes_asked`.

## What it rests on

* What one turn does with questions is `step_cases`, and `exists_since` finds the turn that posed
  the question. Between that turn and the confirmation nothing of its kind was done, because doing
  it would have closed the question.
* That the rules allow it rests on `Permitted` and on the menu of a row at the time of the choice.
  The row may be gone by the time of the confirmation; the question keeps the id of the row that it
  was chosen for, and this id is what is deleted.
* What comes of the change is `Reported`, one statement for both kinds: a failure is told and
  changes nothing else, and success asks for the current page once.
-/

namespace PitchDesk.Desk

variable {o : Oracle} {a : Answers} {d d' : Desk} {i : Input} {e : Effect} {q : Question}

/-! ### What comes of a change -/

/-- What comes of a change that was asked of the outside from a desk. If it fails, a notice tells
why and all else stays as it was; if it is made, the current page of its view is asked for again,
once. -/
structure Reported (d : Desk) (e : Effect) (v : Resource) (answer : Except Failure Unit)
    (failure : String) (t : Turn) : Prop where
  error : ∀ why, answer = .error why →
    t = ⟨{ d with
          workspace := { d.workspace with notice := some ⟨.error, failure ++ why.full⟩ }
          noticeToken := d.nextToken },
        [e, .clearLater d.nextToken], false⟩
  ok : answer = .ok () →
    t.effects.filter Effect.isFetch = [.fetch v (d.list v).refresh.request] ∧
      t.desk.list v = (d.list v).refresh

/-- A list sends its latest request once, whether that can be started or not. -/
theorem filter_isFetch_fetch (a : Answers) (d : Desk) (v : Resource) :
    (d.fetch a v).effects.filter Effect.isFetch = [.fetch v (d.list v).request] ∧
      (d.fetch a v).desk.list v = d.list v := by
  unfold fetch
  cases a.fetch <;> exact ⟨rfl, rfl⟩

/-- Asking for the current page again sends one request. -/
theorem filter_isFetch_refetch (a : Answers) (d : Desk) (v : Resource) :
    (d.refetch a v).effects.filter Effect.isFetch = [.fetch v (d.list v).refresh.request] ∧
      (d.refetch a v).desk.list v = (d.list v).refresh := by
  have hlist : (d.setList v (d.list v).refresh).list v = (d.list v).refresh := by
    rw [list_setList, if_pos rfl]
  rw [← hlist]
  exact filter_isFetch_fetch a _ v

/-- A change that is asked for and told of comes out as `Reported` says. -/
theorem reported (a : Answers) (d : Desk) (he : e.isFetch = false) (v : Resource)
    (answer : Except Failure Unit) (success failure : String) :
    Reported d e v answer failure
      (Turn.andThen ⟨d, [e], false⟩ (·.report a v answer success failure)) where
  error why hwhy := by
    subst hwhy
    rfl
  ok hok := by
    subst hok
    obtain ⟨heffects, hdesk⟩ := filter_isFetch_refetch a (d.notify .success success).desk v
    refine ⟨?_, hdesk⟩
    have hcall : [e].filter Effect.isFetch = [] := by simp [he]
    show ([e] ++ ([_] ++ (refetch a _ v).effects)).filter Effect.isFetch = _
    rw [List.filter_append, List.filter_append, heffects, hcall]
    rfl

variable {v : Resource} {id : Int64} {t : Turn}

/-- A row is deleted by a key in answer to the question whether to delete it, which goes away. -/
theorem Settles.delete_spec (h : d.Settles a i q (.delete v id) t) :
    ∃ k title, i = .key k ∧ (k.code = .char 'y' ∨ k.code = .char 'Y') ∧
      d.confirm = some ⟨v, id, title⟩ ∧ q = ⟨.delete, v, id, title⟩ ∧ t.desk.confirm = none ∧
      Reported { d with confirm := none } (.delete v id) v a.delete "delete failed: " t := by
  have hgone : t.desk.confirm = none := by
    refine Option.eq_none_iff_forall_ne_some.2 fun p' hp' ↦ ?_
    have hne := (h.of_mem_questions (Desk.mem_questions.2 (.inl ⟨p', hp', rfl⟩))).2
    cases h
    exact hne rfl
  cases h with
  | @delete k p hk hp =>
    refine ⟨k, p.title, rfl, hk, hp, rfl, hgone, ?_⟩
    rw [deleteRow_eq_andThen]
    exact reported a _ rfl _ _ _ _

/-- A document is uploaded by the enter key in answer to the question for one, which goes away. -/
theorem Settles.upload_spec {u : Upload} (h : d.Settles a i q (.upload v id u) t) :
    ∃ k title path, i = .key k ∧ k.code = .enter ∧
      d.upload = some ⟨v, id, title, path⟩ ∧ q = ⟨.uploadDocument, v, id, title⟩ ∧
      t.desk.upload = none ∧ u.path = Text.trim path ∧ u.title = title ∧
      u.size = a.fileSize u.path ∧ u.check a.maxUploadBytes = .ok () ∧
      Reported { d with upload := none } (.upload v id u) v a.upload "upload failed: " t := by
  have hgone : t.desk.upload = none := by
    refine Option.eq_none_iff_forall_ne_some.2 fun p' hp' ↦ ?_
    have hne := (h.of_mem_questions (Desk.mem_questions.2 (.inr ⟨p', hp', rfl⟩))).2
    cases h
    exact hne rfl
  cases h with
  | @upload k p hk hp hu =>
    refine ⟨k, p.title, p.path, rfl, hk, hp, rfl, hgone, rfl, rfl, rfl, hu, ?_⟩
    rw [submitUpload_of_ok hu]
    exact reported a _ rfl _ _ _ _

/-! ### Where questions come from -/

/-- What the user may do is known as the rules have it for the open view. -/
theorem Opening.exists_view_of_capabilities (s : Opening) (xs : List Occasion)
    {caps : Capabilities} (h : (s.after o xs).capabilities = some caps) :
    ∃ v, (s.after o xs).workspace.view = some v ∧ caps = capabilitiesIn o v := by
  refine s.induction (o := o) (P := fun d ↦ ∀ caps, d.capabilities = some caps →
    ∃ v, d.workspace.view = some v ∧ caps = capabilitiesIn o v) xs (fun _ _ _ _ ↦ nofun) ?_ caps h
  intro a i d d' es hd hm caps hcaps
  rcases hm.view_capabilities with ⟨v, -, hv, hcaps'⟩ | ⟨-, hcaps'⟩ | ⟨hv, hcaps'⟩
  · exact ⟨v, hv, Option.some.inj (hcaps.symm.trans hcaps')⟩
  · exact absurd (hcaps.symm.trans hcaps') nofun
  · rw [hv]
    exact hd caps (hcaps'.symm.trans hcaps)

/-- A question was asked for on one of some occasions, and has been open ever since: it was posed by
choosing from the menu of a row, as the rules allow it, and nothing of its kind has been done
meanwhile. -/
def Opening.Asked (s : Opening) (o : Oracle) (xs : List Occasion) (q : Question) (r : Record) :
    Prop :=
  ∃ ys x zs, xs = ys ++ x :: zs ∧
    (s.after o ys).Poses x.input q r ∧
    r.allows ((Descriptor.ofResource q.view).evaluate o) q.action = true ∧
    (∀ us, us <+: zs → q ∈ (s.after o (ys ++ x :: us)).questions) ∧
    (play o (s.after o ys) (x :: zs)).effects.filter (·.changes q.action) = []

/-- What was asked for is allowed by the rules of its view. -/
theorem Opening.Asked.allows {s : Opening} {xs : List Occasion} {r : Record}
    (h : s.Asked o xs q r) :
    r.allows ((Descriptor.ofResource q.view).evaluate o) q.action = true := by
  obtain ⟨ys, x, zs, -, -, hallows, -⟩ := h
  exact hallows

/-- The start of a session poses no question and changes no row. -/
theorem Opening.silent_start (s : Opening) (o : Oracle) :
    (s.start o).desk.questions = [] ∧ ∀ e ∈ (s.start o).effects, e.change? = none := by
  have hsilent := (makes_start (o := o) (a := s.answers) s.workspace s.menu s.pageSize).silent
  exact ⟨List.subset_nil.1 hsilent.questions, hsilent.change?⟩

/-- **Every question that is open was asked for.** -/
theorem Opening.exists_asked (s : Opening) (o : Oracle) (xs : List Occasion)
    (h : q ∈ (s.after o xs).questions) : ∃ r, s.Asked o xs q r := by
  have hstart : q ∉ (s.start o).desk.questions := by
    rw [(s.silent_start o).1]
    exact List.not_mem_nil
  obtain ⟨ys, x, zs, rfl, hbefore, hsince⟩ := exists_since (P := fun d ↦ q ∈ d.questions) h hstart
  have hposed : q ∈ ((s.after o ys).step o x.answers x.input).desk.questions := by
    rw [Opening.after, ← desk_play_concat]
    exact hsince [] List.nil_prefix
  obtain ⟨r, hposes⟩ := (mem_questions_step hposed).resolve_left hbefore
  obtain ⟨row, caps, -, hcaps, -⟩ := hposes.menu
  obtain ⟨v, hv, rfl⟩ := s.exists_view_of_capabilities ys hcaps
  obtain rfl := Option.some.inj (hv.symm.trans hposes.view)
  refine ⟨r, ys, x, zs, rfl, hposes, hposes.allows hcaps, hsince, ?_⟩
  refine filter_effects_play (P := fun d ↦ q ∈ d.questions)
    (fun d a i hq ↦ filter_changes_of_mem_questions hq) fun us hus hne ↦ ?_
  obtain ⟨u, us, rfl⟩ := List.exists_cons_of_ne_nil hne
  obtain ⟨rfl, htail⟩ := List.cons_prefix_cons.1 hus
  rw [Opening.after, ← desk_play_append]
  exact hsince us htail

/-- **Changes were asked for.** At every point of a session, whatever has happened in it and
whatever happens next, the start of a session changes no row, and:
1. A row is deleted only by the key for yes while the question whether to delete it is open. The
  question was posed by choosing so from the menu of a row with this id in the view that was open
  then, in which the user may delete; it has been open ever since, nothing was deleted meanwhile,
  just this row is deleted now, and the question goes away.
2. A document is uploaded only by the enter key while the question for it is open. The question was
  posed in the same way about a submission in a view in which the user may update, and what is
  uploaded is the file that has been named for it, which is accepted.
3. If what was asked of the outside fails, nothing changes but the notice, with its number, and the
  question that goes away. If it is done, the page of the view is asked for again, exactly once. -/
theorem Opening.changes_asked (s : Opening) (o : Oracle) (xs : List Occasion) (a : Answers)
    (i : Input) :
    let d := s.after o xs
    let t := d.step o a i
    (∀ e ∈ (s.start o).effects, e.change? = none) ∧
    (∀ v id, .delete v id ∈ t.effects →
      ∃ k title r, i = .key k ∧ (k.code = .char 'y' ∨ k.code = .char 'Y') ∧
        d.confirm = some ⟨v, id, title⟩ ∧ t.desk.confirm = none ∧
        s.Asked o xs ⟨.delete, v, id, title⟩ r ∧
        ((Descriptor.ofResource v).evaluate o).canDelete = true ∧
        t.effects.filter (·.changes .delete) = [.delete v id] ∧
        Reported { d with confirm := none } (.delete v id) v a.delete "delete failed: " t) ∧
    ∀ v id u, .upload v id u ∈ t.effects →
      ∃ k title path r, i = .key k ∧ k.code = .enter ∧
        d.upload = some ⟨v, id, title, path⟩ ∧ t.desk.upload = none ∧
        s.Asked o xs ⟨.uploadDocument, v, id, title⟩ r ∧
        r.isSubmission = true ∧ ((Descriptor.ofResource v).evaluate o).canUpdate = true ∧
        u.path = Text.trim path ∧ u.title = title ∧ u.size = a.fileSize u.path ∧
        u.check a.maxUploadBytes = .ok () ∧
        t.effects.filter (·.changes .uploadDocument) = [.upload v id u] ∧
        Reported { d with upload := none } (.upload v id u) v a.upload "upload failed: " t := by
  intro d t
  refine ⟨(s.silent_start o).2, fun v id hcall ↦ ?_, fun v id u hcall ↦ ?_⟩
  -- a call settles a question, and every question was posed by a choice earlier in the run
  · obtain ⟨q, hsettles⟩ := exists_settles hcall nofun
    obtain ⟨r, hasked⟩ := s.exists_asked o xs hsettles.mem_questions
    have honce := hsettles.filter_changes q.action
    obtain ⟨k, title, hi, hk, hconfirm, rfl, hgone, hreported⟩ := hsettles.delete_spec
    exact ⟨k, title, r, hi, hk, hconfirm, hgone, hasked, hasked.allows, honce, hreported⟩
  · obtain ⟨q, hsettles⟩ := exists_settles hcall nofun
    obtain ⟨r, hasked⟩ := s.exists_asked o xs hsettles.mem_questions
    have honce := hsettles.filter_changes q.action
    obtain ⟨k, title, path, hi, hk, hupload, rfl, hgone, hpath, htitle, hsize, hu,
      hreported⟩ :=
      hsettles.upload_spec
    obtain ⟨hsubmission, hupdate⟩ := Bool.and_eq_true_iff.1 hasked.allows
    exact ⟨k, title, path, r, hi, hk, hupload, hgone, hasked, hsubmission, hupdate, hpath, htitle,
      hsize, hu, honce, hreported⟩

/-- A user who may see and change submissions, and nothing else. -/
def updatingOracle : Oracle :=
  (Sample.session .admin [⟨"submissions", "read"⟩, ⟨"submissions", "update"⟩]).oracle

/-- An outside that has one file, which is small enough. -/
def answersWithFile : Answers :=
  { sampleAnswers with
    maxUploadBytes := 10
    fileSize := fun path ↦ if path = "a.pdf" then some 5 else none }

/-- A session that starts with the submissions. -/
def pitchOpening : Opening where
  answers := answersWithFile
  workspace := {}
  menu := ⟨.server, [.node (Sample.menuRecord 1 "submissions" "/submissions" none 1) []]⟩
  pageSize := 10

/-- A pitch comes, the third item of its menu is chosen, and the name of the file is typed. -/
def sampleNaming : List Occasion :=
  let pitch : Record := .submission ⟨5, 7, "Gala", 3, "Acme", "Bikes", .pending, Sample.firstDay⟩
  let codes : List KeyCode := [.char '.', .down, .down, .enter] ++ "a.pdf".toList.map .char
  ⟨answersWithFile, .news (.loaded .submissions 1 (.ok ⟨[pitch], some 1, some 1⟩))⟩ ::
    codes.map fun code ↦ ⟨answersWithFile, .key ⟨code, false, false, false⟩⟩

/-- A user who may see and delete events chooses to delete one. Its row is gone by the time of the
answer, and yet it is the event of that row that is deleted. A user who may change submissions
chooses to send a document for one, names the file, and the file is uploaded; the page is asked for
again, once. -/
theorem Opening.chosen_changes_are_made :
    (∃ a i title r, (sampleOpening.after sampleOracle sampleDeletion).rows .events = [] ∧
      Effect.delete .events 7 ∈
        ((sampleOpening.after sampleOracle sampleDeletion).step sampleOracle a i).effects ∧
      sampleOpening.Asked sampleOracle sampleDeletion ⟨.delete, .events, 7, title⟩ r) ∧
    ∃ a i r,
      let t := (pitchOpening.after updatingOracle sampleNaming).step updatingOracle a i
      Effect.upload .submissions 5 ⟨"a.pdf", "Bikes", some 5⟩ ∈ t.effects ∧
      pitchOpening.Asked updatingOracle sampleNaming
        ⟨.uploadDocument, .submissions, 5, "Bikes"⟩ r ∧
      (t.effects.filter Effect.isFetch).length = 1 := by
  constructor
  · have hfirst : ((sampleOpening.after sampleOracle sampleDeletion).step sampleOracle
        sampleAnswers (.key ⟨.char 'y', false, false, false⟩)).effects.head? =
          some (.delete .events 7) := by
      rfl
    have hcall := List.mem_of_mem_head? hfirst
    obtain ⟨-, title, r, -, -, -, -, hasked, -⟩ :=
      (sampleOpening.changes_asked _ sampleDeletion _ _).2.1 .events 7 hcall
    exact ⟨_, _, title, r, rfl, hcall, hasked⟩
  · have hfirst : ((pitchOpening.after updatingOracle sampleNaming).step updatingOracle
        answersWithFile (.key ⟨.enter, false, false, false⟩)).effects.head? =
          some (.upload .submissions 5 ⟨"a.pdf", "Bikes", some 5⟩) := by
      decide +kernel
    have hcall := List.mem_of_mem_head? hfirst
    obtain ⟨-, title, -, r, -, -, -, -, hasked, -, -, -, rfl, -, -, -, hreported⟩ :=
      (pitchOpening.changes_asked _ sampleNaming _ _).2.2 .submissions 5 _ hcall
    refine ⟨_, _, r, hcall, hasked, ?_⟩
    rw [(hreported.ok rfl).1]
    rfl

end PitchDesk.Desk
