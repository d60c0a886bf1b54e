import PitchDesk.Proofs.Listing.Pages

/-!
# Turning pages

The next page and the page before are asked for by their numbers, and only pages that there are can
be gone to. So on the last page the number after it is refused, and on the first page the number
before it: nothing is asked for, and the list stays as it is.

Only the last of all numbers has none after it. A list on that page takes its own number for the
next one, and asks for the same page again. `turning_of_reachable` says what is asked for on every
page, and `last_number_turns_to_itself` shows that one.

That a list stands on a page which there is, is a hypothesis here, and when it holds is in
`PitchDesk.Proofs.Listing.Pages`. All else that is needed of a list, that its page is one at least,
holds of every list that comes about, whatever answers it was given (`Reachable.sound`).
-/

namespace PitchDesk.Listing

variable {α : Type} {l : Listing α}

/-! ### Lists that come about -/

/-- A list after some operations. Answers may carry any number. -/
def after (l : Listing α) (ops : List (Op α)) : Listing α :=
  ops.foldl (fun l op ↦ (l.step op).1) l

/-- A list that comes about from a new one. -/
def Reachable (l : Listing α) : Prop :=
  ∃ pageSize ops, (new pageSize).after ops = l

/-- Whatever is done to a list, the request of its query is sound. -/
theorem sound_step (h : l.request.Sound) (op : Op α) : (l.step op).1.request.Sound := by
  rcases l.step_cases op with
    ⟨l', ⟨_, _, _, -, hsound⟩, hstep⟩ | ⟨input, hstep⟩ | ⟨seq, answer, rfl⟩
  · rw [hstep]
    exact hsound h
  · rw [hstep]
    exact h
  · show (l.apply seq answer).1.request.Sound
    rwa [request_apply]

theorem sound_after (h : l.request.Sound) (ops : List (Op α)) : (l.after ops).request.Sound := by
  induction ops generalizing l with
  | nil => exact h
  | cons op ops ih => exact ih (sound_step h op)

/-- The query of a list that comes about could be sent. -/
theorem Reachable.sound (h : l.Reachable) : l.request.Sound := by
  obtain ⟨pageSize, ops, rfl⟩ := h
  exact sound_after (numbered_new pageSize).sound ops

/-! ### Asking for a page, or for none -/

/-- An operation asks for a page of what the list shows, with the next number, and changes nothing
else. -/
def TurnsTo (l : Listing α) (op : Op α) (page : Nat) : Prop :=
  ∃ p : UInt32, p.toNat = page ∧
    l.step op =
      ({ l with
          query := { l.query with page := p }
          latest := l.latest + 1
          state := .loading },
        [.asked ⟨l.latest + 1, p, l.query.pageSize, l.query.term⟩])

/-- An operation asks for nothing, and the list stays as it is. -/
def Stays (l : Listing α) (op : Op α) : Prop :=
  l.step op = (l, [])

section GoToPage

variable {op : Op α} {page : UInt32}

/-- To go to a page that there is asks for it. -/
theorem turnsTo_of_le (hop : l.step op = ((l.goToPage? page).map asking).getD (l, []))
    (hone : 1 ≤ page) (hlast : page ≤ l.query.totalPages) : l.TurnsTo op page.toNat := by
  refine ⟨page, rfl, ?_⟩
  rw [hop, goToPage?_of_le hone hlast]
  rfl

/-- To go to a page that there is not leaves the list as it is. -/
theorem stays_of_lt (hop : l.step op = ((l.goToPage? page).map asking).getD (l, []))
    (hpage : page < 1 ∨ l.query.totalPages < page) : l.Stays op := by
  rw [Stays, hop, goToPage?, if_pos hpage]
  rfl

end GoToPage

/-! ### The number after -/

/-- Below the last of all numbers, the page after has the next one. -/
theorem toNat_pageAfter (h : l.query.page.toNat + 1 < UInt32.size) :
    l.pageAfter.toNat = l.query.page.toNat + 1 := by
  have hadd : (l.query.page + 1).toNat = l.query.page.toNat + 1 := by
    rw [UInt32.toNat_add, UInt32.toNat_one, Nat.mod_eq_of_lt h]
  have hne : l.query.page + 1 ≠ 0 := fun hzero ↦ by
    rw [hzero, UInt32.toNat_zero] at hadd
    omega
  rw [pageAfter, if_neg hne, hadd]

/-- The last of all numbers is taken for the one after it. -/
theorem pageAfter_eq_self (h : l.query.page.toNat + 1 = UInt32.size) :
    l.pageAfter = l.query.page := by
  have hzero : l.query.page + 1 = 0 := by
    rw [← UInt32.toNat_inj, UInt32.toNat_add, UInt32.toNat_one, h]
    rfl
  rw [pageAfter, if_pos hzero]

/-! ### Forward and back -/

theorem turnsTo_nextPage (h : l.query.page < l.query.totalPages) :
    l.TurnsTo .nextPage (l.query.page.toNat + 1) := by
  have hlt : l.query.page.toNat < l.query.totalPages.toNat := UInt32.lt_iff_toNat_lt.1 h
  have hbound : l.query.totalPages.toNat < UInt32.size := l.query.totalPages.toNat_lt
  have hafter := toNat_pageAfter (l := l) (by omega)
  rw [← hafter]
  refine turnsTo_of_le rfl ?_ ?_
  · rw [UInt32.le_iff_toNat_le, UInt32.toNat_one]
    omega
  · rw [UInt32.le_iff_toNat_le]
    omega

theorem stays_nextPage (h : l.query.page = l.query.totalPages)
    (hpage : l.query.page.toNat + 1 < UInt32.size) : l.Stays .nextPage := by
  refine stays_of_lt rfl (.inr ?_)
  rw [UInt32.lt_iff_toNat_lt, toNat_pageAfter hpage, h]
  exact Nat.lt_succ_self _

theorem turnsTo_prevPage (hl : OnPage l) (h : 1 < l.query.page) :
    l.TurnsTo .prevPage (l.query.page.toNat - 1) := by
  obtain ⟨hone, hlast⟩ := hl.pageBefore_le h
  rw [← toNat_pageBefore hl.one_le]
  exact turnsTo_of_le rfl hone hlast

theorem stays_prevPage (h : l.query.page = 1) : l.Stays .prevPage := by
  have hone : 1 ≤ l.query.page := by
    rw [h]
    exact UInt32.le_refl 1
  refine stays_of_lt rfl (.inl ?_)
  rw [UInt32.lt_iff_toNat_lt, toNat_pageBefore hone, h]
  decide

/-- From the page after, the list turns back to where it was. -/
theorem turnsTo_prevPage_of_nextPage (hl : OnPage l) (h : l.query.page < l.query.totalPages) :
    (l.step .nextPage).1.TurnsTo .prevPage l.query.page.toNat := by
  obtain ⟨p, hp, hstep⟩ := turnsTo_nextPage h
  have hone : 1 ≤ l.query.page.toNat := UInt32.le_iff_toNat_le.1 hl.one_le
  have hlt : l.query.page.toNat < l.query.totalPages.toNat := UInt32.lt_iff_toNat_lt.1 h
  have hafter : 1 < p ∧ p ≤ l.query.totalPages := by
    rw [UInt32.lt_iff_toNat_lt, UInt32.le_iff_toNat_le, UInt32.toNat_one]
    omega
  rw [show l.query.page.toNat = p.toNat - 1 by omega, hstep]
  exact turnsTo_prevPage ⟨UInt32.le_of_lt hafter.1, hafter.2⟩ hafter.1

/-- **What turning the page asks for.** On every page that there is, of a list that comes about,
1. before the last page, the next page is the one after it, and the page before that is this page
again, with everything else that is asked for as it was;
2. on the last page, there is no next page, unless its number is the last of all numbers;
3. on a page with the last of all numbers, the next page is this page again;
4. after the first page, the page before is the one before it;
5. on the first page, there is no page before. -/
theorem turning_of_reachable (h : l.Reachable) (hpage : l.query.page ≤ l.query.totalPages) :
    (l.query.page < l.query.totalPages →
      l.TurnsTo .nextPage (l.query.page.toNat + 1) ∧
      (l.step .nextPage).1.TurnsTo .prevPage l.query.page.toNat ∧
      (l.after [.nextPage, .prevPage]).query = l.query) ∧
    (l.query.page = l.query.totalPages → l.query.page.toNat + 1 < UInt32.size → l.Stays .nextPage) ∧
    (l.query.page.toNat + 1 = UInt32.size → l.TurnsTo .nextPage l.query.page.toNat) ∧
    (1 < l.query.page → l.TurnsTo .prevPage (l.query.page.toNat - 1)) ∧
    (¬1 < l.query.page → l.Stays .prevPage) := by
  have hl : OnPage l := ⟨h.sound.one_le_page, hpage⟩
  refine ⟨fun hlt ↦ ?_, stays_nextPage, fun hmax ↦ ?_, turnsTo_prevPage hl,
    fun hle ↦ stays_prevPage (UInt32.le_antisymm (UInt32.not_lt.1 hle) hl.one_le)⟩
  · have hnext := turnsTo_nextPage hlt
    have hback := turnsTo_prevPage_of_nextPage hl hlt
    refine ⟨hnext, hback, ?_⟩
    obtain ⟨p, -, hstep⟩ := hnext
    obtain ⟨q, hq, hback⟩ := hback
    rw [after, List.foldl_cons, List.foldl_cons, List.foldl_nil, hback, hstep,
      UInt32.toNat_inj.1 hq]
  · refine turnsTo_of_le ?_ hl.one_le hpage
    rw [← pageAfter_eq_self hmax]
    rfl

/-- The first of three pages has one after it and none before it, and the last the other way
around. -/
theorem first_and_last_page_turn :
    (∃ l : Listing Nat, l.Reachable ∧ l.query.page = 1 ∧ l.query.totalPages = 3 ∧
      l.TurnsTo .nextPage 2 ∧ (l.after [.nextPage, .prevPage]).query = l.query ∧
      l.Stays .prevPage) ∧
    ∃ l : Listing Nat, l.Reachable ∧ l.query.page = 3 ∧ l.query.totalPages = 3 ∧
      l.Stays .nextPage ∧ l.TurnsTo .prevPage 2 := by
  constructor
  · have h : Reachable (α := Nat) _ := ⟨10, [.mount, .apply 1 (.ok ⟨[5], some 21, some 3⟩)], rfl⟩
    obtain ⟨hforward, -, -, -, hfirst⟩ := turning_of_reachable h (by decide)
    obtain ⟨hnext, -, hboth⟩ := hforward (by decide)
    exact ⟨_, h, rfl, rfl, hnext, hboth, hfirst (by decide)⟩
  · have h : Reachable (α := Nat) _ :=
      ⟨10, [.mount, .apply 1 (.ok ⟨[5], some 21, some 3⟩), .goToPage 3], rfl⟩
    obtain ⟨-, hlast, -, hback, -⟩ := turning_of_reachable h (by decide)
    exact ⟨_, h, rfl, rfl, hlast rfl (by decide), hback (by decide)⟩

/-- There are as many pages as there are numbers, and the list stands on the last: the next page
that is asked for is the same again, and the page before that is not. -/
theorem last_number_turns_to_itself :
    ∃ l : Listing Nat, l.Reachable ∧ l.query.page = l.query.totalPages ∧ ¬l.Stays .nextPage ∧
      l.nextPage? = some l.refresh ∧
      (l.after [.nextPage, .prevPage]).query.page ≠ l.query.page := by
  have h : Reachable (α := Nat) _ :=
    ⟨10, [.mount, .apply 1 (.ok ⟨[], none, some 4294967295⟩), .goToPage 4294967295], rfl⟩
  refine ⟨_, h, rfl, fun hstays ↦ ?_, rfl, by decide⟩
  have hlog := congrArg (fun turn ↦ turn.2.length) hstays
  cases hlog

end PitchDesk.Listing
