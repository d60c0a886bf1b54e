import PitchDesk.Proofs.Desk.History
import PitchDesk.Proofs.Desk.Requests

/-!
# Lists that wait for an answer

A list that is loading waits for the answer to its latest request. That answer is still to come,
unless the request could not be sent: then a notice tells so, and the list goes on loading without
anything to wait for.

`Outstanding` holds whatever news come, and `Accounted` as long as only those answers come that
were promised. `Opening.awaited_of_loading` puts both together: a list waits in vain exactly if its
latest request could not be sent.

## Why two invariants

The two directions ask for different things of the outside. That a list which is loading has
something to wait for, or could not send its request, needs nothing: an answer that comes unasked
can settle a list but not make it load. That a list whose latest request could not be sent is
loading, and stays so, is wrong if somebody answers a request that was never sent; so `Accounted`
is kept only if all answers were promised, and only while the numbers of requests differ, that is
below `UInt64.size` of them.

Turns that take an answer are not cut into moves here, `step_receive_or_moves`: an answer uses up
its promise and settles its list at once.
-/

namespace PitchDesk

/-- Whether the request of a view's list that an effect sends could be sent. -/
def Effect.sent? (v : Resource) (a : Answers) (e : Effect) : Option Bool :=
  (e.request? v).map fun _ ↦ a.fetch.isOk

namespace Listing

variable {α : Type}

/-- The answer to its latest request settles a list. -/
theorem state_apply_latest (l : Listing α) (answer : Except Failure (Page α)) :
    (l.apply l.latest answer).1.state ≠ .loading := by
  cases answer with
  | ok page => rw [apply_ok]; exact nofun
  | error failure => rw [apply_error]; exact nofun

end Listing

namespace Desk

/-- Whether the requests of a view's list could be sent, in order. -/
def sent (v : Resource) (rs : List Round) : List Bool :=
  rs.flatMap fun r ↦ r.effects.filterMap (·.sent? v r.answers)

variable {o : Oracle} {a : Answers} {i : Option Input} {d d' : Desk} {es es' : List Effect}
  {v : Resource} {ps ps' : List Promise} {bs bs' : List Bool} {rs rs' : List PageRequest}

theorem sent_concat (rs : List Round) (r : Round) :
    sent v (rs ++ [r]) = sent v rs ++ r.effects.filterMap (·.sent? v r.answers) := by
  simp [sent]

/-! ### Turns without a request -/

/-- Nothing is sent for a list without a request. -/
theorem filterMap_sent?_eq_nil (h : ∀ r, .fetch v r ∉ es) :
    es.filterMap (·.sent? v a) = [] := by
  refine List.filterMap_eq_nil_iff.2 fun e he ↦ ?_
  rw [Effect.sent?, List.filterMap_eq_nil_iff.1 (filterMap_request?_eq_nil h) e he]
  rfl

/-- No answer is promised to a list without a request. -/
theorem answer_notMem_promises (h : ∀ r, .fetch v r ∉ es) (seq : UInt64) :
    .answer v seq ∉ es.filterMap (·.promise? a) := by
  intro hmem
  obtain ⟨e, he, hpromise⟩ := List.mem_filterMap.1 hmem
  cases e with
  | fetch w r =>
    unfold Effect.promise? at hpromise
    cases ha : a.fetch with
    | ok _ =>
      rw [ha] at hpromise
      cases hpromise
      exact h r he
    | error _ =>
      rw [ha] at hpromise
      cases hpromise
  | _ => cases hpromise

/-! ### What is to come -/

/-- What a view's list waits for is to come, given the promises that are left and whether its
requests could be sent; or else the latest of them could not. -/
def Outstanding (v : Resource) (d : Desk) (ps : List Promise) (bs : List Bool) : Prop :=
  (d.list v).state = .loading →
    .answer v (d.list v).latest ∈ ps ∨ bs.getLast? = some false

/-- A move that takes no answer leaves a loading list with something to wait for. -/
theorem Move.outstanding (hd : Outstanding v d ps bs) (h : Move o a i d d' es)
    (hi : ∀ w seq answer, i ≠ some (.news (.loaded w seq answer))) :
    Outstanding v d' (ps ++ es.filterMap (·.promise? a)) (bs ++ es.filterMap (·.sent? v a)) := by
  intro hl
  rcases h.list_cases v with ⟨-, rfl⟩ | ⟨hnew, -, -⟩ | ⟨hlatest, hstate, hes⟩
  · -- a request promises an answer exactly if it can be sent
    cases ha : a.fetch with
    | ok _ => exact .inl (by simp [Effect.promise?, ha, Listing.request])
    | error _ => exact .inr (by simp [Effect.sent?, ha, Except.isOk, Except.toBool])
  · rw [hnew] at hl
    cases hl
  · rw [hlatest, filterMap_sent?_eq_nil hes, List.append_nil]
    exact (hd (hstate hi ▸ hl)).imp_left (List.mem_append_left _)

theorem Moves.outstanding (h : Moves o a i d d' es) (hd : Outstanding v d ps bs)
    (hi : ∀ w seq answer, i ≠ some (.news (.loaded w seq answer))) :
    Outstanding v d' (ps ++ es.filterMap (·.promise? a)) (bs ++ es.filterMap (·.sent? v a)) := by
  induction h generalizing ps bs with
  | nil => simpa using hd
  | cons hm _ ih =>
    rw [List.filterMap_append, List.filterMap_append, ← List.append_assoc, ← List.append_assoc]
    exact ih (hm.outstanding hd hi)

/-- An answer is the one that a view's list waits for, or the list takes no notice of it. -/
theorem list_receive_cases (d : Desk) (v w : Resource) (seq : UInt64)
    (answer : Except String (Page Record)) :
    (Promise.answer w seq = .answer v (d.list v).latest ∧
      ((d.receive w seq answer).desk.list v).state ≠ .loading) ∨
    (Promise.answer w seq ≠ .answer v (d.list v).latest ∧
      (d.receive w seq answer).desk.list v = d.list v) := by
  rw [list_receive]
  by_cases hv : v = w
  · subst hv
    rw [if_pos rfl]
    by_cases hseq : seq = (d.list v).latest
    · subst hseq
      exact .inl ⟨rfl, Listing.state_apply_latest _ _⟩
    · refine .inr ⟨fun h ↦ ?_, by rw [Listing.apply_of_ne hseq]⟩
      cases h
      exact hseq rfl
  · rw [if_neg hv]
    refine .inr ⟨fun h ↦ ?_, rfl⟩
    cases h
    exact hv rfl

/-- An answer settles the list that waits for it. Others go on waiting for theirs. -/
theorem Outstanding.receive (hd : Outstanding v d ps bs) (w : Resource) (seq : UInt64)
    (answer : Except String (Page Record)) (hes : ∀ r, .fetch v r ∉ es) :
    Outstanding v (d.receive w seq answer).desk
      (ps.erase (.answer w seq) ++ es.filterMap (·.promise? a))
      (bs ++ es.filterMap (·.sent? v a)) := by
  intro hl
  rcases list_receive_cases d v w seq answer with ⟨-, hstate⟩ | ⟨hne, hlist⟩
  · exact absurd hl hstate
  · rw [hlist] at hl ⊢
    rw [filterMap_sent?_eq_nil hes, List.append_nil]
    refine (hd hl).imp_left fun hmem ↦ List.mem_append_left _ ?_
    exact (List.mem_erase_of_ne hne.symm).2 hmem

/-! ### What is not to come -/

/-- What is promised to a view's list are answers to its requests; and if the latest of these could
not be sent, the list is loading, and no answer to it is promised. -/
structure Accounted (v : Resource) (d : Desk) (rs : List PageRequest) (ps : List Promise)
    (bs : List Bool) : Prop where
  seq_mem : ∀ seq, .answer v seq ∈ ps → seq ∈ rs.map (·.seq)
  unsent : bs.getLast? = some false →
    (d.list v).state = .loading ∧ .answer v (d.list v).latest ∉ ps

/-- What a list is accounted for holds of fewer promises too. -/
theorem Accounted.mono (h : Accounted v d rs ps bs)
    (hstate : (d'.list v).state = (d.list v).state)
    (hlatest : (d'.list v).latest = (d.list v).latest)
    (hps : ∀ seq, .answer v seq ∈ ps' → .answer v seq ∈ ps) : Accounted v d' rs ps' bs where
  seq_mem seq hseq := h.seq_mem seq (hps seq hseq)
  unsent hlast := by
    rw [hstate, hlatest]
    exact ⟨(h.unsent hlast).1, fun hmem ↦ (h.unsent hlast).2 (hps _ hmem)⟩

/-- A request that could not be sent is not promised an answer, since no request before had its
number. -/
theorem Accounted.request (h : Accounted v d rs ps bs) (hl : (d.list v).Asks (d'.list v))
    (hrs : (d'.list v).Numbered (rs ++ [(d'.list v).request]))
    (hn : (rs ++ [(d'.list v).request]).length < UInt64.size) :
    Accounted v d' (rs ++ [(d'.list v).request])
      (ps ++ [Effect.fetch v (d'.list v).request].filterMap (·.promise? a))
      (bs ++ [Effect.fetch v (d'.list v).request].filterMap (·.sent? v a)) := by
  -- a new number is told from all earlier ones as long as they have not gone around
  have hfresh : (d'.list v).latest ∉ rs.map (·.seq) := by
    have hnodup := hrs.nodup_seqs hn
    rw [List.map_append, List.nodup_append] at hnodup
    exact fun hmem ↦ hnodup.2.2 _ hmem _ (List.mem_singleton_self _) rfl
  cases ha : a.fetch with
  | ok _ =>
    have hpromises : [Effect.fetch v (d'.list v).request].filterMap (·.promise? a) =
        [.answer v (d'.list v).latest] := by simp [Effect.promise?, ha, Listing.request]
    rw [hpromises]
    refine ⟨fun seq hseq ↦ ?_, fun hlast ↦ ?_⟩
    · rw [List.map_append, List.mem_append]
      rcases List.mem_append.1 hseq with hseq | hseq
      · exact .inl (h.seq_mem seq hseq)
      · cases List.mem_singleton.1 hseq
        exact .inr (List.mem_singleton_self _)
    · simp [Effect.sent?, ha, Except.isOk, Except.toBool] at hlast
  | error _ =>
    have hpromises : [Effect.fetch v (d'.list v).request].filterMap (·.promise? a) = [] := by
      simp [Effect.promise?, ha]
    rw [hpromises, List.append_nil]
    refine ⟨fun seq hseq ↦ ?_, fun _ ↦ ⟨hl.state_eq, fun hmem ↦ hfresh (h.seq_mem _ hmem)⟩⟩
    rw [List.map_append, List.mem_append]
    exact .inl (h.seq_mem seq hseq)

/-- A move that takes no answer keeps account of the promises to a list. -/
theorem Move.accounted (hd : Accounted v d rs ps bs) (hrs : (d.list v).Numbered rs)
    (h : Move o a i d d' es) (hi : ∀ w seq answer, i ≠ some (.news (.loaded w seq answer)))
    (hin : .logout ∉ es) (hn : (es.foldl (noteRequest v) rs).length < UInt64.size) :
    Accounted v d' (es.foldl (noteRequest v) rs) (ps ++ es.filterMap (·.promise? a))
      (bs ++ es.filterMap (·.sent? v a)) := by
  rcases h.list_cases v with ⟨hl, rfl⟩ | ⟨-, hlogout, -⟩ | ⟨hlatest, hstate, hes⟩
  · have hnote : [Effect.fetch v (d'.list v).request].foldl (noteRequest v) rs =
        rs ++ [(d'.list v).request] := if_pos rfl
    rw [hnote] at hn ⊢
    exact hd.request hl (hrs.ask hl) hn
  · exact absurd hlogout hin
  · rw [foldl_noteRequest_eq hes hin, filterMap_sent?_eq_nil hes, List.append_nil]
    refine hd.mono (hstate hi) hlatest fun seq hseq ↦ ?_
    exact (List.mem_append.1 hseq).resolve_right (answer_notMem_promises hes seq)

theorem Moves.accounted (h : Moves o a i d d' es) (hd : Accounted v d rs ps bs)
    (hrs : (d.list v).Numbered rs) (hi : ∀ w seq answer, i ≠ some (.news (.loaded w seq answer)))
    (hin : .logout ∉ es) (hn : (es.foldl (noteRequest v) rs).length < UInt64.size) :
    Accounted v d' (es.foldl (noteRequest v) rs) (ps ++ es.filterMap (·.promise? a))
      (bs ++ es.filterMap (·.sent? v a)) := by
  induction h generalizing rs ps bs with
  | nil => simpa using hd
  | cons hm _ ih =>
    obtain ⟨hin, hin'⟩ := not_or.1 (mt List.mem_append.2 hin)
    rw [List.foldl_append] at hn ⊢
    rw [List.filterMap_append, List.filterMap_append, ← List.append_assoc, ← List.append_assoc]
    have hn' := (length_le_foldl_noteRequest hin').trans_lt hn
    exact ih (hm.accounted hd hrs hi hin hn') (hm.numbered hrs) hin' hn

/-- An answer that was promised is not the one that could not be asked for. -/
theorem Accounted.receive (hd : Accounted v d rs ps bs) {w : Resource} {seq : UInt64}
    (hkept : .answer w seq ∈ ps) (answer : Except String (Page Record))
    (hes : ∀ r, .fetch v r ∉ es) :
    Accounted v (d.receive w seq answer).desk rs
      (ps.erase (.answer w seq) ++ es.filterMap (·.promise? a))
      (bs ++ es.filterMap (·.sent? v a)) := by
  rw [filterMap_sent?_eq_nil hes, List.append_nil]
  have hleft (q : UInt64) (hq : .answer v q ∈
      ps.erase (.answer w seq) ++ es.filterMap (·.promise? a)) : .answer v q ∈ ps :=
    List.mem_of_mem_erase ((List.mem_append.1 hq).resolve_right (answer_notMem_promises hes q))
  refine ⟨fun q hq ↦ hd.seq_mem q (hleft q hq), fun hlast ↦ ?_⟩
  obtain ⟨hstate, hlatest⟩ := hd.unsent hlast
  rcases list_receive_cases d v w seq answer with ⟨heq, -⟩ | ⟨-, hlist⟩
  · exact absurd (heq ▸ hkept) hlatest
  · rw [hlist]
    exact ⟨hstate, fun hmem ↦ hlatest (hleft _ hmem)⟩

/-! ### Along a session -/

/-- A turn is the answer to a request, or it consists of moves that take no answer. -/
theorem step_receive_or_moves (o : Oracle) (a : Answers) (d : Desk) (i : Input) :
    (∃ w seq answer, i = .news (.loaded w seq answer) ∧ d.step o a i = d.receive w seq answer) ∨
    ((∀ w seq answer, some i ≠ some (.news (.loaded w seq answer))) ∧
      Moves o a (some i) d (d.step o a i).desk (d.step o a i).effects) := by
  by_cases h : ∃ w seq answer, i = .news (.loaded w seq answer)
  · obtain ⟨w, seq, answer, rfl⟩ := h
    exact .inl ⟨w, seq, answer, rfl, rfl⟩
  · refine .inr ⟨fun w seq answer hi ↦ h ⟨w, seq, answer, Option.some.inj hi⟩, makes_step d i⟩

/-- An input that is no answer leaves the answers that are still to come. -/
theorem Round.answer_mem_left_iff {r : Round}
    (hi : ∀ w seq answer, r.input ≠ some (.news (.loaded w seq answer))) (ps : List Promise)
    (seq : UInt64) : .answer v seq ∈ r.left ps ↔ .answer v seq ∈ ps := by
  unfold Round.left
  split
  · rename_i n hn
    cases n with
    | noticeOver token => exact List.mem_erase_of_ne nofun
    | loaded w q answer => exact absurd hn (hi w q answer)
  · exact Iff.rfl

/-- Every turn leaves a loading list with something to wait for. -/
theorem Outstanding.step {rounds : List Round}
    (hd : Outstanding v d (awaited rounds) (sent v rounds)) (a : Answers) (i : Input) :
    Outstanding v (d.step o a i).desk
      (awaited (rounds ++ [⟨some i, a, (d.step o a i).effects⟩]))
      (sent v (rounds ++ [⟨some i, a, (d.step o a i).effects⟩])) := by
  rw [awaited_concat, sent_concat]
  rcases step_receive_or_moves o a d i with ⟨w, seq, answer, rfl, hstep⟩ | ⟨hi, hmoves⟩
  · rw [hstep]
    exact hd.receive w seq answer (fetch_notMem_receive d w v seq answer)
  · refine hmoves.outstanding (fun hl ↦ ?_) hi
    exact (hd hl).imp_left (Round.answer_mem_left_iff hi _ _).2

/-- A turn keeps account of the promises to a list, if the answer that it takes was promised. -/
theorem Accounted.step {rounds : List Round}
    (hd : Accounted v d (requestsOf v (asked rounds)) (awaited rounds) (sent v rounds))
    (hrs : (d.list v).Numbered (requestsOf v (asked rounds))) (a : Answers) (i : Input)
    (hkept : ∀ n, i = .news n → n.promise.isAnswer = true → n.promise ∈ awaited rounds)
    (hin : .logout ∉ (d.step o a i).effects)
    (hn : (requestsOf v (asked (rounds ++ [⟨some i, a, (d.step o a i).effects⟩]))).length <
      UInt64.size) :
    Accounted v (d.step o a i).desk
      (requestsOf v (asked (rounds ++ [⟨some i, a, (d.step o a i).effects⟩])))
      (awaited (rounds ++ [⟨some i, a, (d.step o a i).effects⟩]))
      (sent v (rounds ++ [⟨some i, a, (d.step o a i).effects⟩])) := by
  rw [asked_concat, requestsOf, List.foldl_append] at hn ⊢
  rw [awaited_concat, sent_concat]
  rcases step_receive_or_moves o a d i with ⟨w, seq, answer, rfl, hstep⟩ | ⟨hi, hmoves⟩
  · have hes := fetch_notMem_receive d w v seq answer
    rw [hstep] at hin ⊢
    rw [foldl_noteRequest_eq hes hin]
    exact hd.receive (hkept _ rfl rfl) answer hes
  · refine hmoves.accounted (hd.mono rfl rfl fun seq ↦ ?_) hrs hi hin hn
    exact (Round.answer_mem_left_iff hi _ seq).1

/-- At every point of a session, a loading list has an answer to come, or its latest request could
not be sent. -/
theorem Opening.outstanding (s : Opening) (o : Oracle) (xs : List Occasion) (v : Resource) :
    Outstanding v (s.after o xs) (awaited (s.rounds o xs)) (sent v (s.rounds o xs)) := by
  refine s.rounds_induction (P := fun d rs ↦ Outstanding v d (awaited rs) (sent v rs)) xs ?_
    fun a i hd ↦ hd.step a i
  have hbare : Outstanding v s.bare [] [] := nofun
  simpa [awaited, sent, Round.left, Round.promises] using
    (s.makes_start o).outstanding hbare fun _ _ _ ↦ nofun

/-- At every point of a session, the requests of each list are in order. -/
theorem Opening.numbered (s : Opening) (o : Oracle) (xs : List Occasion) (v : Resource) :
    ((s.after o xs).list v).Numbered (requestsOf v (asked (s.rounds o xs))) := by
  refine s.rounds_induction (P := fun d rs ↦ (d.list v).Numbered (requestsOf v (asked rs))) xs
    ?_ fun a i hd ↦ ?_
  · have hbare : (s.bare.list v).Numbered (requestsOf v []) := Listing.numbered_new s.pageSize
    simpa [asked] using (s.makes_start o).numbered hbare
  · rw [asked_concat]
    exact (makes_step _ i).numbered hd

/-- As long as only those answers come that were promised, a request that could not be sent leaves
its list waiting in vain. -/
theorem Opening.accounted (s : Opening) (o : Oracle) (xs : List Occasion) (v : Resource)
    (hkept : Kept Promise.isAnswer (s.rounds o xs)) (hin : .logout ∉ asked (s.rounds o xs))
    (hn : (requestsOf v (asked (s.rounds o xs))).length < UInt64.size) :
    Accounted v (s.after o xs) (requestsOf v (asked (s.rounds o xs)))
      (awaited (s.rounds o xs)) (sent v (s.rounds o xs)) := by
  induction xs using List.reverseRecOn with
  | nil =>
    have hbare : Accounted v s.bare [] [] [] := ⟨fun _ ↦ nofun, nofun⟩
    have hasked : asked (s.rounds o []) = (s.start o).effects := List.append_nil _
    rw [hasked] at hin hn
    have hstart := (s.makes_start o).accounted hbare (Listing.numbered_new s.pageSize)
      (fun _ _ _ ↦ nofun) hin hn
    show Accounted v (s.start o).desk _ _ _
    simpa [awaited, sent, asked, Round.left, Round.promises, Opening.rounds, Desk.rounds,
      requestsOf] using hstart
  | append_singleton xs x ih =>
    rw [Opening.rounds_concat] at hkept hin hn ⊢
    rw [Opening.after_concat]
    obtain ⟨hkept, hlast⟩ := kept_concat_iff.1 hkept
    have hin' := hin
    rw [asked_concat, List.mem_append, not_or] at hin'
    have hn' := hn
    rw [asked_concat, requestsOf, List.foldl_append] at hn'
    refine (ih hkept hin'.1 ((length_le_foldl_noteRequest hin'.2).trans_lt hn')).step
      (s.numbered o xs v) x.answers x.input (fun n hi ↦ hlast n (congrArg some hi)) hin'.2 hn

/-- **A list waits in vain exactly if its latest request could not be sent.** At every point of a
session, the answer that a loading list waits for is still to come, unless its latest request could
not be sent. So when nothing is to come for a list any more, it is loading only in that case. And
then it is, as long as only those answers come that were promised, nobody has signed out and numbers
have not started again. -/
theorem Opening.awaited_of_loading (s : Opening) (o : Oracle) (xs : List Occasion) :
    let d := s.after o xs
    let rs := s.rounds o xs
    (∀ v, (d.list v).state = .loading →
      .answer v (d.list v).latest ∈ awaited rs ∨ (sent v rs).getLast? = some false) ∧
    (Kept Promise.isAnswer rs → .logout ∉ asked rs →
      ∀ v, (requestsOf v (asked rs)).length < UInt64.size →
        ((d.list v).state = .loading ∧ .answer v (d.list v).latest ∉ awaited rs ↔
          (sent v rs).getLast? = some false)) := by
  intro d rs
  refine ⟨fun v ↦ s.outstanding o xs v, fun hkept hin v hn ↦ ⟨fun ⟨hl, hnone⟩ ↦ ?_, ?_⟩⟩
  · exact (s.outstanding o xs v hl).resolve_left hnone
  · exact (s.accounted o xs v hkept hin hn).unsent

/-- The events are shown, and the request for them again cannot be sent: they are loading, and
nothing is to come. -/
theorem Opening.refused_refresh_waits_in_vain :
    let xs : List Occasion :=
      [⟨sampleAnswers, .news (.loaded .events 1 (.ok ⟨[], some 0, some 1⟩))⟩,
        ⟨{ sampleAnswers with fetch := .error ⟨"no thread", []⟩ },
          .key ⟨.char 'R', false, false, false⟩⟩]
    let d := sampleOpening.after sampleOracle xs
    let rs := sampleOpening.rounds sampleOracle xs
    Kept Promise.isAnswer rs ∧ .logout ∉ asked rs ∧ sent .events rs = [true, false] ∧
      awaited rs = [.timer 1] ∧ (d.list .events).state = .loading ∧
      .answer .events (d.list .events).latest ∉ awaited rs := by
  intro xs d rs
  have hkept : Kept Promise.isAnswer rs := by
    have hstart : Kept Promise.isAnswer ([] ++ rs.take 1) := kept_concat_iff.2 ⟨kept_nil, nofun⟩
    have hfirst : Kept Promise.isAnswer (rs.take 1 ++ (rs.drop 1).take 1) := by
      refine kept_concat_iff.2 ⟨hstart, ?_⟩
      rintro n ⟨⟩ -
      decide +kernel
    have hsecond : Kept Promise.isAnswer (rs.take 2 ++ rs.drop 2) :=
      kept_concat_iff.2 ⟨hfirst, nofun⟩
    exact hsecond
  have hin : .logout ∉ asked rs := by decide +kernel
  have hsent : sent .events rs = [true, false] := by rfl
  obtain ⟨hstate, hnone⟩ :=
    ((sampleOpening.awaited_of_loading sampleOracle xs).2 hkept hin .events (by decide +kernel)).2
      (by rw [show sent .events (sampleOpening.rounds sampleOracle xs) = _ from hsent]; rfl)
  exact ⟨hkept, hin, hsent, rfl, hstate, hnone⟩

/-- The first request of a session cannot be sent: its list is loading, and nothing is to come but
the end of the time of the notice that tells so. -/
theorem Opening.unsent_request_is_loading :
    ∃ s o, ((s : Opening).after o []).list .events = (Listing.new 10).refresh ∧
      ((s.after o []).list .events).state = .loading ∧
      awaited (s.rounds o []) = [.timer 1] :=
  ⟨{ sampleOpening with answers := { sampleAnswers with fetch := .error ⟨"no thread", []⟩ } },
    sampleOracle, rfl, rfl, rfl⟩

end Desk

end PitchDesk
