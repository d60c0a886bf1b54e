import PitchDesk.Proofs.Listing.Requests

/-!
# Runs of a list

What can happen to a list between its first request and its last answer: the user's operations and
the answers to requests, in any order. A `Run` keeps what the list and the service have told each
other, and `Consistent` says how what is shown hangs together with that.

Answers may come late, more than once or never. Only `Op.Prompted` is asked of them: each carries
the number of a request that was made before.

## The log

The list itself forgets: it knows its latest request and what it shows, and neither which requests
were made before nor where its rows came from. The log is kept beside it by `step` and never looked
at by any operation, so the statements can speak of both. An exchange notes what became of an
answer, because `lastAccepted?` needs the answers that were taken and not those that came.

`Run.consistent` is by induction on the run, with one case for each way in which an operation can
go (`step_cases`): it asks, it changes the search field, or it takes an answer. The hypothesis of
`shown_of_run` on the number of requests is only for their numbers to differ.
-/

namespace PitchDesk.Listing

variable {α : Type} {l l' : Listing α}

/-! ### Operations and what is told -/

/-- Something that is done to a list. -/
inductive Op (α : Type) where
  | mount
  | refresh
  | search
  | reset
  | goToPage (page : UInt32)
  | nextPage
  | prevPage
  | setInput (input : String)
  | typeKey (key : SearchKey)
  | apply (seq : UInt64) (answer : Except Failure (Page α))

/-- What a list and the service tell each other: a request, or an answer and what became of it. -/
inductive Exchange (α : Type) where
  | asked (request : PageRequest)
  | answered (seq : UInt64) (answer : Except Failure (Page α)) (delivery : Delivery)

variable {log : List (Exchange α)}

/-- A list that has just made a request, with that request. -/
def asking (l : Listing α) : Listing α × List (Exchange α) :=
  (l, [.asked l.request])

/-- Does something to a list. -/
def step (l : Listing α) : Op α → Listing α × List (Exchange α)
  | .mount | .refresh => l.refresh.asking
  | .search => l.search.asking
  | .reset => l.reset.asking
  | .goToPage page => ((l.goToPage? page).map asking).getD (l, [])
  | .nextPage => (l.nextPage?.map asking).getD (l, [])
  | .prevPage => (l.prevPage?.map asking).getD (l, [])
  | .setInput input => (l.setInput input, [])
  | .typeKey key => if (l.typeKey key).2 then (l.typeKey key).1.asking else ((l.typeKey key).1, [])
  | .apply seq answer => ((l.apply seq answer).1, [.answered seq answer (l.apply seq answer).2])

/-- The requests among what was told, in the order in which they were made. -/
def requests (log : List (Exchange α)) : List PageRequest :=
  log.filterMap fun
    | .asked r => some r
    | .answered _ _ _ => none

/-- The page that a list accepted last, with the number that it came with. -/
def lastAccepted? (log : List (Exchange α)) : Option (UInt64 × Page α) :=
  (log.filterMap fun
    | .answered seq (.ok page) .applied => some (seq, page)
    | _ => none).getLast?

/-- An answer is prompted by what was told if it carries the number of a request. Whatever else is
done needs no prompting. -/
def Op.Prompted (log : List (Exchange α)) : Op α → Prop
  | .apply seq _ => ∃ r ∈ requests log, r.seq = seq
  | _ => True

/-- The lists that can come about, with all that was told on the way. -/
inductive Run (pageSize : UInt32) : Listing α → List (Exchange α) → Prop
  | new : Run pageSize (new pageSize) []
  | step {l : Listing α} {log : List (Exchange α)} (h : Run pageSize l log) (op : Op α)
      (hop : op.Prompted log) : Run pageSize (l.step op).1 (log ++ (l.step op).2)

@[simp]
theorem requests_append (log log' : List (Exchange α)) :
    requests (log ++ log') = requests log ++ requests log' :=
  List.filterMap_append

@[simp]
theorem requests_asked (r : PageRequest) : requests [(.asked r : Exchange α)] = [r] :=
  rfl

@[simp]
theorem requests_answered (seq : UInt64) (answer : Except Failure (Page α)) (d : Delivery) :
    requests [.answered seq answer d] = [] :=
  rfl

@[simp]
theorem lastAccepted?_asked (log : List (Exchange α)) (r : PageRequest) :
    lastAccepted? (log ++ [.asked r]) = lastAccepted? log := by
  simp [lastAccepted?]

/-- A page that is taken is the last that was accepted. -/
theorem lastAccepted?_applied (log : List (Exchange α)) (seq : UInt64) (page : Page α) :
    lastAccepted? (log ++ [.answered seq (.ok page) .applied]) = some (seq, page) := by
  simp [lastAccepted?]

/-- An answer that is not taken leaves the last accepted page as it was. -/
theorem lastAccepted?_of_ne_applied (log : List (Exchange α)) (seq : UInt64)
    (answer : Except Failure (Page α)) {d : Delivery} (hd : d ≠ .applied) :
    lastAccepted? (log ++ [.answered seq answer d]) = lastAccepted? log := by
  cases d with
  | applied => exact absurd rfl hd
  | failed => simp [lastAccepted?]
  | stale => simp [lastAccepted?]

/-- An operation makes a request, or it changes no more than what stands in the search field, or it
takes an answer. -/
theorem step_cases (l : Listing α) (op : Op α) :
    (∃ l', l.Asks l' ∧ l.step op = l'.asking) ∨ (∃ input, l.step op = (l.setInput input, [])) ∨
      ∃ seq answer, op = .apply seq answer := by
  -- three operations ask for a page that there may not be
  have paged (page : UInt32) :
      (∃ l', l.Asks l' ∧ ((l.goToPage? page).map asking).getD (l, []) = l'.asking) ∨
        ∃ input, ((l.goToPage? page).map asking).getD (l, []) = (l.setInput input, []) := by
    cases h : l.goToPage? page with
    | none => exact .inr ⟨l.input, rfl⟩
    | some l' => exact .inl ⟨l', asks_of_goToPage? h, rfl⟩
  cases op with
  | mount => exact .inl ⟨_, l.asks_refresh, rfl⟩
  | refresh => exact .inl ⟨_, l.asks_refresh, rfl⟩
  | search => exact .inl ⟨_, l.asks_search, rfl⟩
  | reset => exact .inl ⟨_, l.asks_reset, rfl⟩
  | goToPage page => exact (paged page).imp_right .inl
  | nextPage => exact (paged l.pageAfter).imp_right .inl
  | prevPage => exact (paged l.pageBefore).imp_right .inl
  | setInput input => exact .inr (.inl ⟨input, rfl⟩)
  | typeKey key =>
    rcases l.typeKey_cases key with ⟨hasks, h⟩ | ⟨input, h⟩
    · exact .inl ⟨_, h, if_pos hasks⟩
    · exact .inr (.inl ⟨input, by simp [step, h]⟩)
  | apply seq answer => exact .inr (.inr ⟨seq, answer, rfl⟩)

/-! ### What is shown -/

/-- A list hangs together with what it and the service have told each other: its requests are in
order, and it shows the page that it accepted last. If it is loaded, that page came as the answer to
the latest request. -/
structure Consistent (l : Listing α) (log : List (Exchange α)) : Prop
    extends Numbered l (requests log) where
  rows : l.rows = ((lastAccepted? log).map (·.2.items)).getD []
  totalItems : l.totalItems = (lastAccepted? log).bind (·.2.totalItems)
  loaded : l.state = .loaded → ∃ page, lastAccepted? log = some (l.latest, page)

theorem consistent_new (pageSize : UInt32) : Consistent (new pageSize : Listing α) [] where
  toNumbered := numbered_new pageSize
  rows := rfl
  totalItems := rfl
  loaded := nofun

/-- A request leaves what is shown alone, and the list is loading then. -/
theorem Consistent.ask (h : Consistent l log) (hl : l.Asks l') :
    Consistent l' (log ++ [.asked l'.request]) where
  toNumbered := by
    rw [requests_append, requests_asked]
    exact h.toNumbered.ask hl
  rows := by
    obtain ⟨input, page, term, rfl, -⟩ := hl
    rw [lastAccepted?_asked]
    exact h.rows
  totalItems := by
    obtain ⟨input, page, term, rfl, -⟩ := hl
    rw [lastAccepted?_asked]
    exact h.totalItems
  loaded := by
    obtain ⟨input, page, term, rfl, -⟩ := hl
    exact nofun

theorem Consistent.setInput (h : Consistent l log) (input : String) :
    Consistent (l.setInput input) log where
  toNumbered := h.toNumbered.of_request_eq rfl
  rows := h.rows
  totalItems := h.totalItems
  loaded := h.loaded

/-- An answer is taken with its rows, or changes nothing that is shown. -/
theorem Consistent.apply (h : Consistent l log) (seq : UInt64)
    (answer : Except Failure (Page α)) :
    Consistent (l.apply seq answer).1 (log ++ [.answered seq answer (l.apply seq answer).2]) := by
  have hnumbered : Numbered (l.apply seq answer).1
      (requests (log ++ [.answered seq answer (l.apply seq answer).2])) := by
    rw [requests_append, requests_answered, List.append_nil]
    exact h.toNumbered.of_request_eq (l.request_apply seq answer)
  by_cases hseq : seq = l.latest
  · -- a page takes the place of the one that was accepted last, a failure leaves it there
    subst hseq
    cases answer with
    | ok page =>
      have hkept := lastAccepted?_applied log l.latest page
      rw [apply_ok] at hnumbered ⊢
      exact ⟨hnumbered, by rw [hkept]; rfl, by rw [hkept]; rfl, fun _ ↦ ⟨page, hkept⟩⟩
    | error failure =>
      have hkept := lastAccepted?_of_ne_applied log l.latest (.error failure) (d := .failed) nofun
      rw [apply_error] at hnumbered ⊢
      exact ⟨hnumbered, by rw [hkept]; exact h.rows, by rw [hkept]; exact h.totalItems, nofun⟩
  · have hkept := lastAccepted?_of_ne_applied log seq answer (d := .stale) nofun
    rw [apply_of_ne hseq] at hnumbered ⊢
    exact ⟨hnumbered, by rw [hkept]; exact h.rows, by rw [hkept]; exact h.totalItems,
      by rw [hkept]; exact h.loaded⟩

/-- Whatever is done to a list, it hangs together with what was told. -/
theorem Consistent.step (h : Consistent l log) (op : Op α) :
    Consistent (l.step op).1 (log ++ (l.step op).2) := by
  rcases l.step_cases op with ⟨l', hl, hstep⟩ | ⟨input, hstep⟩ | ⟨seq, answer, rfl⟩
  · rw [hstep]
    exact h.ask hl
  · rw [hstep, List.append_nil]
    exact h.setInput input
  · exact h.apply seq answer

/-- Along every run, a list hangs together with what was told. -/
theorem Run.consistent {pageSize : UInt32} (h : Run pageSize l log) : Consistent l log := by
  induction h with
  | new => exact consistent_new pageSize
  | step _ op _ ih => exact ih.step op

/-- A page is accepted only when a request was made before. -/
theorem Run.requests_ne_nil {pageSize : UInt32} (h : Run pageSize l log)
    (hlog : lastAccepted? log ≠ none) : requests log ≠ [] := by
  induction h with
  | new => exact absurd rfl hlog
  | @step l log _ op hop ih =>
    rcases l.step_cases op with ⟨l', -, hstep⟩ | ⟨input, hstep⟩ | ⟨seq, answer, rfl⟩
    · simp [hstep, asking]
    · rw [hstep, List.append_nil] at hlog ⊢
      exact ih hlog
    · obtain ⟨r, hr, -⟩ := hop
      rw [requests_append]
      exact List.append_ne_nil_of_left_ne_nil (List.ne_nil_of_mem hr) _

/-- **What is shown answers what was asked.** Along every run the requests are told apart by their
numbers and are sound, and the rows and the number of items are those of the page that was accepted
last. When the list is loaded, that page is the answer to the latest request, and the query still
says what that request asked for. A page that answers the latest request is accepted and shown, and
a failure that answers it is told and changes nothing but the state; an answer to any other request
changes nothing. -/
theorem shown_of_run {pageSize : UInt32} (h : Run pageSize l log)
    (hn : (requests log).length < UInt64.size) :
    ((requests log).map (·.seq)).Nodup ∧
    (∀ r ∈ requests log, 1 ≤ r.page ∧ 1 ≤ r.pageSize ∧ Text.trim r.search = r.search) ∧
    l.rows = ((lastAccepted? log).map (·.2.items)).getD [] ∧
    l.totalItems = (lastAccepted? log).bind (·.2.totalItems) ∧
    (l.state = .loaded → ∃ r page, (requests log).getLast? = some r ∧
      lastAccepted? log = some (r.seq, page) ∧ r.page = l.query.page ∧
      r.pageSize = l.query.pageSize ∧ r.search = l.query.term) ∧
    (∀ r seq answer, (requests log).getLast? = some r → seq ≠ r.seq →
      l.apply seq answer = (l, .stale)) ∧
    (∀ r page, (requests log).getLast? = some r → l.apply r.seq (.ok page) =
      ({ l with
          rows := page.items
          totalItems := page.totalItems
          query := { l.query with totalPages := max (page.totalPages.getD 1) 1 }
          state := .loaded }, .applied)) ∧
    (∀ r failure, (requests log).getLast? = some r → l.apply r.seq (.error failure) =
      ({ l with state := .failed failure.full }, .failed)) ∧
    ∀ seq failure, ∃ state, (l.apply seq (.error failure)).1 = { l with state := state } := by
  -- all that is claimed of the log is one invariant; the last clauses are single steps after it
  have hl := h.consistent
  refine ⟨hl.nodup_seqs hn, fun r hr ↦ ?_, hl.rows, hl.totalItems, fun hloaded ↦ ?_, ?_, ?_, ?_,
    ?_⟩
  · obtain ⟨hpage, hsize, hterm⟩ := hl.requests_sound r hr
    exact ⟨hpage, hsize, hterm⟩
  · obtain ⟨page, hpage⟩ := hl.loaded hloaded
    have hne : requests log ≠ [] := h.requests_ne_nil (by simp [hpage])
    have hlast := List.getLast?_eq_some_getLast hne
    refine ⟨_, page, hlast, ?_⟩
    rw [hl.request _ hlast]
    exact ⟨hpage, rfl, rfl, rfl⟩
  · intro r seq answer hlast hseq
    rw [hl.request r hlast] at hseq
    exact apply_of_ne hseq answer
  · intro r page hlast
    rw [hl.request r hlast]
    exact l.apply_ok page
  · intro r failure hlast
    rw [hl.request r hlast]
    exact l.apply_error failure
  · intro seq failure
    by_cases hseq : seq = l.latest
    · subst hseq
      exact ⟨_, congrArg Prod.fst (l.apply_error failure)⟩
    · exact ⟨l.state, congrArg Prod.fst (apply_of_ne hseq _)⟩

/-- A page comes, the next one is asked for, and the first comes once more: it is not shown. When
the next one comes it takes the place of the first. -/
theorem rows_of_late_answer :
    ∃ (l : Listing Nat) (log : List (Exchange Nat)), Run 10 l log ∧
      (requests log).map (·.seq) = [1, 2] ∧ ((requests log).map (·.seq)).Nodup ∧
      l.rows = [7] ∧ l.state = .loading ∧ l.apply 1 (.ok ⟨[9], none, none⟩) = (l, .stale) ∧
      (l.apply 2 (.ok ⟨[5], some 8, some 2⟩)).1.rows = [5] := by
  have h : Run 10 (α := Nat) _ _ :=
    .step (.step (.step .new .mount trivial) (.apply 1 (.ok ⟨[7], some 8, some 2⟩))
      ⟨_, List.mem_singleton_self _, rfl⟩) .nextPage trivial
  obtain ⟨hnodup, -, -, -, -, hstale, hlatest, -, -⟩ := shown_of_run h (by decide)
  refine ⟨_, _, h, rfl, hnodup, rfl, rfl, hstale _ 1 _ rfl (by decide), ?_⟩
  exact congrArg (·.1.rows) (hlatest _ ⟨[5], some 8, some 2⟩ rfl)

end PitchDesk.Listing
