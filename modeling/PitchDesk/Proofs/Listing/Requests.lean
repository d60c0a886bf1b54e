import Mathlib.Data.List.Nodup
import PitchDesk.Listing
import PitchDesk.Proofs.Text.Blank

/-!
# Requests of a list

The requests that a list has made are numbered from one on, and the latest of them is what its
query still stands for: `Numbered`. A list that makes a request keeps this, `Numbered.ask`, and so
does whatever leaves the query and the latest number alone, `Numbered.of_request_eq`. Below
`UInt64.size` requests no number is given twice.

Only the answer to the latest request counts, which `apply_of_ne`, `apply_ok` and `apply_error` say
one by one.

All operations that ask for a page are one relation, `Asks`: they may change the search field, the
page and the term, and then refresh. What they have in common is shown for it once, that they are
sound, that they load, and that they leave the rows; which page and which term each of them asks
for is in `PitchDesk.Proofs.Listing.Turning` and in the operations themselves.
-/

namespace PitchDesk

/-- A request that may be sent: pages are counted from one, a page has a row at least, and the term
stands without blanks around it. -/
structure PageRequest.Sound (r : PageRequest) : Prop where
  one_le_page : 1 ≤ r.page
  one_le_pageSize : 1 ≤ r.pageSize
  trim_search : Text.trim r.search = r.search

/-- Numbers that are raised to one are one at least. -/
theorem one_le_max_one (n : UInt32) : 1 ≤ max n 1 := by
  show 1 ≤ if n ≤ 1 then 1 else n
  split
  · exact le_refl 1
  · exact UInt32.le_of_lt (UInt32.not_le.1 ‹_›)

/-- Words that are counted from one on differ, as long as their values do not start again. -/
theorem nodup_ofNat_succ {n : Nat} (hn : n < UInt64.size) :
    ((List.range n).map fun i ↦ UInt64.ofNat (i + 1)).Nodup := by
  refine List.Nodup.map_on ?_ List.nodup_range
  intro i hi j hj hij
  rw [List.mem_range] at hi hj
  -- a word that is made of a small number still has its value
  have hvalue := congrArg UInt64.toNat hij
  rw [UInt64.toNat_ofNat_of_lt' (by omega), UInt64.toNat_ofNat_of_lt' (by omega)] at hvalue
  omega

namespace Listing

variable {α : Type} {l l' : Listing α} {rs : List PageRequest}

/-! ### Making a request -/

/-- A list that makes a request becomes another: what stands in the search field, the page and the
term may change, and the request is sound if that of the query before was. -/
def Asks (l l' : Listing α) : Prop :=
  ∃ input page term,
    l' = refresh { l with input := input, query := { l.query with page := page, term := term } } ∧
      (l.request.Sound → l'.request.Sound)

theorem asks_refresh (l : Listing α) : l.Asks l.refresh :=
  ⟨l.input, l.query.page, l.query.term, rfl, fun h ↦ ⟨h.1, h.2, h.3⟩⟩

theorem asks_search (l : Listing α) : l.Asks l.search :=
  ⟨l.input, 1, Text.trim l.input, rfl, fun h ↦ ⟨le_refl 1, h.2, Text.trim_trim _⟩⟩

theorem asks_reset (l : Listing α) : l.Asks l.reset :=
  ⟨"", 1, "", rfl, fun h ↦ ⟨le_refl 1, h.2, Text.trim_empty⟩⟩

/-- A page that can be gone to is asked for. -/
theorem asks_of_goToPage? {page : UInt32} (h : l.goToPage? page = some l') : l.Asks l' := by
  by_cases hp : page < 1 ∨ l.query.totalPages < page
  · rw [goToPage?, if_pos hp] at h
    exact absurd h (by simp)
  · rw [goToPage?, if_neg hp] at h
    cases h
    refine ⟨l.input, page, l.query.term, rfl, fun h ↦ ⟨?_, h.2, h.3⟩⟩
    exact UInt32.not_lt.1 (not_or.1 hp).1

/-- A request leaves the rows as they are. -/
theorem Asks.rows_eq (h : l.Asks l') : l'.rows = l.rows := by
  obtain ⟨input, page, term, rfl, -⟩ := h
  rfl

theorem Asks.state_eq (h : l.Asks l') : l'.state = .loading := by
  obtain ⟨input, page, term, rfl, -⟩ := h
  rfl

/-- A request takes the next number. -/
theorem Asks.latest_eq (h : l.Asks l') : l'.latest = l.latest + 1 := by
  obtain ⟨input, page, term, rfl, -⟩ := h
  rfl

/-- Typing asks for a page, or it changes no more than what stands in the search field. -/
theorem typeKey_cases (l : Listing α) (key : SearchKey) :
    (l.typeKey key).2 = true ∧ l.Asks (l.typeKey key).1 ∨
      ∃ input, l.typeKey key = (l.setInput input, false) := by
  cases key with
  | char c => exact .inr ⟨l.input.push c, rfl⟩
  | backspace => exact .inr ⟨String.ofList l.input.toList.dropLast, rfl⟩
  | enter => exact .inl ⟨rfl, l.asks_search⟩

/-! ### Taking an answer -/

/-- An answer to another than the latest request changes nothing. -/
theorem apply_of_ne {seq : UInt64} (h : seq ≠ l.latest) (answer : Except Failure (Page α)) :
    l.apply seq answer = (l, .stale) := by
  simp [apply, h]

/-- A page that answers the latest request is shown. -/
theorem apply_ok (l : Listing α) (page : Page α) :
    l.apply l.latest (.ok page) =
      ({ l with
          rows := page.items
          totalItems := page.totalItems
          query := { l.query with totalPages := max (page.totalPages.getD 1) 1 }
          state := .loaded }, .applied) := by
  simp [apply]

/-- A failure that answers the latest request is told, and nothing else changes. -/
theorem apply_error (l : Listing α) (failure : Failure) :
    l.apply l.latest (.error failure) = ({ l with state := .failed failure.full }, .failed) := by
  simp [apply]

/-- An answer leaves what is asked for alone. -/
@[simp]
theorem request_apply (l : Listing α) (seq : UInt64) (answer : Except Failure (Page α)) :
    (l.apply seq answer).1.request = l.request := by
  by_cases h : seq = l.latest
  · subst h
    cases answer with
    | ok page => rw [apply_ok]; rfl
    | error failure => rw [apply_error]; rfl
  · rw [apply_of_ne h]

@[simp]
theorem latest_apply (l : Listing α) (seq : UInt64) (answer : Except Failure (Page α)) :
    (l.apply seq answer).1.latest = l.latest :=
  congrArg PageRequest.seq (l.request_apply seq answer)

/-- Only a page that is accepted brings other rows. -/
theorem rows_apply_of_ne_applied {seq : UInt64} {answer : Except Failure (Page α)}
    (h : (l.apply seq answer).2 ≠ .applied) : (l.apply seq answer).1.rows = l.rows := by
  by_cases hseq : seq = l.latest
  · subst hseq
    cases answer with
    | ok page => exact absurd (congrArg Prod.snd (l.apply_ok page)) h
    | error failure => rw [apply_error]
  · rw [apply_of_ne hseq]

/-- What becomes of an answer does not depend on the answers before it. -/
@[simp]
theorem delivery_apply_apply (l : Listing α) (seq seq' : UInt64)
    (answer answer' : Except Failure (Page α)) :
    ((l.apply seq answer).1.apply seq' answer').2 = (l.apply seq' answer').2 := by
  by_cases h : seq' = l.latest
  · have h' : seq' = (l.apply seq answer).1.latest := by rw [latest_apply, h]
    cases answer' with
    | ok page =>
      rw [h, apply_ok, ← h, h', apply_ok]
    | error failure =>
      rw [h, apply_error, ← h, h', apply_error]
  · have h' : seq' ≠ (l.apply seq answer).1.latest := by rwa [latest_apply]
    rw [apply_of_ne h, apply_of_ne h']

/-- Of two answers to different requests at most one counts, so their order does not matter. -/
theorem apply_comm (l : Listing α) {seq seq' : UInt64} (h : seq ≠ seq')
    (answer answer' : Except Failure (Page α)) :
    ((l.apply seq answer).1.apply seq' answer').1 =
      ((l.apply seq' answer').1.apply seq answer).1 := by
  by_cases hseq : seq = l.latest
  · have hseq' : seq' ≠ l.latest := fun hl ↦ h (hseq.trans hl.symm)
    have hother : seq' ≠ (l.apply seq answer).1.latest := by rwa [latest_apply]
    rw [apply_of_ne hseq', apply_of_ne hother]
  · have hother : seq ≠ (l.apply seq' answer').1.latest := by rwa [latest_apply]
    rw [apply_of_ne hseq, apply_of_ne hother]

/-! ### Numbers -/

/-- A list has made some requests: they are sound and numbered from one on, and the query stands for
the latest of them. -/
structure Numbered (l : Listing α) (rs : List PageRequest) : Prop where
  sound : l.request.Sound
  requests_sound : ∀ r ∈ rs, r.Sound
  seqs : rs.map (·.seq) = (List.range rs.length).map fun i ↦ UInt64.ofNat (i + 1)
  latest : l.latest = UInt64.ofNat rs.length
  request : ∀ r, rs.getLast? = some r → r = l.request

theorem numbered_new (pageSize : UInt32) : Numbered (new pageSize : Listing α) [] where
  sound := ⟨le_refl 1, one_le_max_one pageSize, Text.trim_empty⟩
  requests_sound := nofun
  seqs := rfl
  latest := rfl
  request := nofun

/-- What leaves the query and the latest number alone keeps the requests in order. -/
theorem Numbered.of_request_eq (h : Numbered l rs) (hl : l'.request = l.request) :
    Numbered l' rs where
  sound := hl ▸ h.sound
  requests_sound := h.requests_sound
  seqs := h.seqs
  latest := (congrArg PageRequest.seq hl).trans h.latest
  request := hl ▸ h.request

/-- A request has the next number. -/
theorem Numbered.ask (h : Numbered l rs) (hl : l.Asks l') : Numbered l' (rs ++ [l'.request]) := by
  obtain ⟨input, page, term, rfl, hsound⟩ := hl
  have hlatest : l.latest + 1 = UInt64.ofNat (rs.length + 1) := by
    rw [h.latest, UInt64.ofNat_add]
    rfl
  exact
    { sound := hsound h.sound
      requests_sound := by
        simp only [List.mem_append, List.mem_singleton]
        rintro r (hr | rfl)
        · exact h.requests_sound r hr
        · exact hsound h.sound
      seqs := by
        rw [List.map_append, List.length_append, List.length_singleton, List.range_succ,
          List.map_append, h.seqs]
        exact congrArg _ (congrArg (fun n ↦ [n]) hlatest)
      latest := by rw [List.length_append]; exact hlatest
      request := by simp }

/-- As long as numbers do not start again, no two requests have the same. -/
theorem Numbered.nodup_seqs (h : Numbered l rs) (hn : rs.length < UInt64.size) :
    (rs.map (·.seq)).Nodup := by
  rw [h.seqs]
  exact nodup_ofNat_succ hn

end Listing

end PitchDesk
