import PitchDesk.Proofs.Desk.Run

/-!
# Requests of a desk

What a desk asks of the outside tells which requests each list has made, `requestsOf`. Whatever
happens, the requests of a list are in order and its query stands for the latest of them,
`Run.numbered`; so the answer to the latest request of a view is the one that its list accepts.

The lists of the views are independent of each other, and a move concerns at most one of them:
`Move.list_cases` says what it does to the list of any one view, and later properties of lists
along a session are proved from that, and from what is known about a single list in
`PitchDesk.Proofs.Listing`. Signing out forgets all lists and starts their numbers over, so the
requests before it are no longer those of any list.
-/

namespace PitchDesk

/-- The request of a view's list that an effect sends. -/
def Effect.request? (v : Resource) : Effect → Option PageRequest
  | .fetch w r => if w = v then some r else none
  | _ => none

@[simp]
theorem Effect.request?_fetch (v : Resource) (r : PageRequest) :
    (Effect.fetch v r).request? v = some r :=
  if_pos rfl

namespace Desk

variable {o : Oracle} {a : Answers} {i : Option Input} {d d' : Desk} {es es' : List Effect}
  {v : Resource} {rs : List PageRequest}

/-- Adds what is asked of the outside to the requests of a view's list. -/
def noteRequest (v : Resource) (rs : List PageRequest) : Effect → List PageRequest
  | .fetch w r => if w = v then rs ++ [r] else rs
  | .logout => []
  | _ => rs

/-- The requests that a view's list has made, in order. Signing out forgets the lists, and their
requests with them. -/
def requestsOf (v : Resource) (es : List Effect) : List PageRequest :=
  es.foldl (noteRequest v) []

/-! ### Lists after an answer -/

/-- An answer concerns the list of its view and no other. -/
theorem list_receive (d : Desk) (v w : Resource) (seq : UInt64)
    (answer : Except String (Page Record)) :
    (d.receive v seq answer).desk.list w =
      if w = v then
        ((d.list v).apply seq (answer.mapError fun message ↦ ⟨message, []⟩)).1
      else d.list w := by
  rw [← list_setList]
  obtain ⟨row, menu, notice, token, hreceive⟩ := exists_receive_eq d v seq answer
  rw [hreceive]
  rfl

/-- An answer makes no request. -/
theorem noteRequest_receive (d : Desk) (v w : Resource) (seq : UInt64)
    (answer : Except String (Page Record)) (rs : List PageRequest) :
    (d.receive v seq answer).effects.foldl (noteRequest w) rs = rs := by
  dsimp only [receive]
  split <;> rfl

/-! ### What moves do to one list -/

/-- An answer asks for nothing but that a notice goes away after a while. -/
theorem fetch_notMem_receive (d : Desk) (v w : Resource) (seq : UInt64)
    (answer : Except String (Page Record)) (r : PageRequest) :
    .fetch w r ∉ (d.receive v seq answer).effects := by
  dsimp only [receive]
  split <;> simp [idle, notify]

/-- A move makes a request of a view's list, or it signs out and forgets the list, or it leaves the
latest request of the list alone, and its state too unless an answer has come. -/
theorem Move.list_cases (v : Resource) (h : Move o a i d d' es) :
    ((d.list v).Asks (d'.list v) ∧ es = [.fetch v (d'.list v).request]) ∨
    (d'.list v = .new d.pageSize ∧ .logout ∈ es ∧ ∀ r, .fetch v r ∉ es) ∨
    ((d'.list v).latest = (d.list v).latest ∧
      ((∀ w seq answer, i ≠ some (.news (.loaded w seq answer))) →
        (d'.list v).state = (d.list v).state) ∧
      ∀ r, .fetch v r ∉ es) := by
  -- three moves change a list or its request; all the others leave every list as it is
  cases h with
  | @request w l hl =>
    by_cases hw : v = w
    · subst hw
      rw [list_setList, if_pos rfl]
      exact .inl ⟨hl, rfl⟩
    · rw [list_setList, if_neg hw]
      exact .inr (.inr ⟨rfl, fun _ ↦ rfl, by simp [hw]⟩)
  | @typeSearch w input hv =>
    rw [list_setList]
    refine .inr (.inr ?_)
    split
    · subst v
      exact ⟨rfl, fun _ ↦ rfl, by simp⟩
    · exact ⟨rfl, fun _ ↦ rfl, by simp⟩
  | @receive w seq answer hi =>
    refine .inr (.inr ⟨?_, fun h ↦ absurd hi (h _ _ _), fetch_notMem_receive d w v seq answer⟩)
    rw [list_receive]
    split
    · subst v
      exact Listing.latest_apply _ _ _
    · rfl
  | logout => exact .inr (.inl ⟨rfl, List.mem_singleton_self _, by simp [Desk.logout]⟩)
  | notify => exact .inr (.inr ⟨rfl, fun _ ↦ rfl, by simp [Desk.notify]⟩)
  | _ => exact .inr (.inr ⟨rfl, fun _ ↦ rfl, by simp⟩)

/-! ### Every list keeps its requests in order -/

/-- What asks for no page of a view sends no request of its list. -/
theorem filterMap_request?_eq_nil (h : ∀ r, .fetch v r ∉ es) :
    es.filterMap (·.request? v) = [] := by
  refine List.filterMap_eq_nil_iff.2 fun e he ↦ ?_
  cases e with
  | fetch w r =>
    refine if_neg ?_
    rintro rfl
    exact h r he
  | _ => rfl

/-- Without a request or a signing out, the requests of a list stay as they are. -/
theorem foldl_noteRequest_eq (h : ∀ r, .fetch v r ∉ es) (hin : .logout ∉ es) :
    es.foldl (noteRequest v) rs = rs := by
  induction es with
  | nil => rfl
  | cons e es ih =>
    have hnote : noteRequest v rs e = rs := by
      cases e with
      | fetch w r =>
        refine if_neg ?_
        rintro rfl
        exact h r (List.mem_cons_self ..)
      | logout => exact absurd (List.mem_cons_self ..) hin
      | _ => rfl
    rw [List.foldl_cons, hnote]
    exact ih (fun r hr ↦ h r (List.mem_cons_of_mem _ hr))
      (fun hl ↦ hin (List.mem_cons_of_mem _ hl))

/-- Without a signing out, no request is forgotten. -/
theorem length_le_foldl_noteRequest (hin : .logout ∉ es) :
    rs.length ≤ (es.foldl (noteRequest v) rs).length := by
  induction es generalizing rs with
  | nil => exact le_refl _
  | cons e es ih =>
    have hnote : rs.length ≤ (noteRequest v rs e).length := by
      cases e with
      | fetch w r =>
        show rs.length ≤ (if w = v then rs ++ [r] else rs).length
        split <;> simp
      | logout => exact absurd (List.mem_cons_self ..) hin
      | _ => exact le_refl _
    exact hnote.trans (ih fun hl ↦ hin (List.mem_cons_of_mem _ hl))

/-- A move goes on with the numbers of a list, or starts them over. -/
theorem Move.numbered {v : Resource} {rs : List PageRequest} (hd : (d.list v).Numbered rs)
    (h : Move o a i d d' es) : (d'.list v).Numbered (es.foldl (noteRequest v) rs) := by
  -- a move makes a request of one list, or forgets all lists, or leaves every query alone
  cases h with
  | typeSearch input hv =>
    refine hd.of_request_eq ?_
    rw [list_setList]
    split
    · subst v
      rfl
    · rfl
  | @request w l hl =>
    rw [list_setList]
    by_cases hw : v = w
    · subst hw
      simpa [noteRequest] using hd.ask hl
    · simpa [noteRequest, hw, Ne.symm hw] using hd
  | @receive w seq answer hi =>
    rw [noteRequest_receive]
    refine hd.of_request_eq ?_
    rw [list_receive]
    split
    · subst v
      exact Listing.request_apply _ _ _
    · rfl
  | logout => exact Listing.numbered_new d.pageSize
  | _ => exact hd

/-- Along every run, the requests of each list are in order. -/
theorem Run.numbered (h : Run o d es) (v : Resource) : (d.list v).Numbered (requestsOf v es) := by
  refine h.induction (P := fun d es ↦ (d.list v).Numbered (requestsOf v es)) ?_ ?_
  · exact fun _ _ pageSize _ ↦ Listing.numbered_new pageSize
  · intro a i d d' es es' hd hm
    rw [requestsOf, List.foldl_append]
    exact hm.numbered hd

theorem Moves.numbered (h : Moves o a i d d' es') (hd : (d.list v).Numbered (requestsOf v es)) :
    (d'.list v).Numbered (requestsOf v (es ++ es')) := by
  refine h.induction (P := fun d es ↦ (d.list v).Numbered (requestsOf v es)) ?_ hd
  intro d d' es es' hd hm
  rw [requestsOf, List.foldl_append]
  exact hm.numbered hd

end Desk

end PitchDesk
