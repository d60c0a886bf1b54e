import PitchDesk.Proofs.Listing.Run

/-!
# The page that is shown

Only a page that there is can be gone to, and a search starts from the first one. So all that the
user does keeps a list on a page that there is, `OnPage.step`. An answer need not: it tells anew
how many pages there are and leaves the page alone that it was asked for. Where it tells of fewer
pages than that, the list stands beyond its last page, and from there neither the next nor the
previous page can be asked for.

`on_page_of_run` says exactly when that happens, and `beyond_last_page` shows a run to such a page.

The condition is on the log: every page that was accepted tells of as many pages as the number of
the page that its request asked for, `Covered`. It compares an answer with its own request and with
no other, so it can be checked answer by answer, and it is all that the service has to keep.
-/

namespace PitchDesk

/-- The number of the last page, as a page tells it. There is always a first page. -/
def Page.last {α : Type} (p : Page α) : UInt32 :=
  max (p.totalPages.getD 1) 1

namespace Listing

variable {α : Type} {l l' : Listing α} {log log' : List (Exchange α)}

/-! ### Pages that there are -/

/-- A list stands on a page that there is. -/
structure OnPage (l : Listing α) : Prop where
  one_le : 1 ≤ l.query.page
  le_totalPages : l.query.page ≤ l.query.totalPages

/-- From a page after the first one, an earlier page can be asked for. -/
def CanGoBack (l : Listing α) : Prop :=
  1 < l.query.page →
    ∃ l', l.prevPage? = some l' ∧ 1 ≤ l'.request.page ∧ l'.request.page < l.query.page

/-- A list on a page that there is has a page. -/
theorem OnPage.one_le_totalPages (h : OnPage l) : 1 ≤ l.query.totalPages :=
  UInt32.le_trans h.one_le h.le_totalPages

/-- The pages that can be gone to are those that there are. -/
theorem onPage_of_goToPage? {page : UInt32} (h : l.goToPage? page = some l') : OnPage l' := by
  unfold goToPage? at h
  split at h
  · cases h
  · rename_i hpage
    obtain ⟨hone, hlast⟩ := not_or.1 hpage
    cases h
    exact ⟨UInt32.not_lt.1 hone, UInt32.not_lt.1 hlast⟩

/-- A page that cannot be gone to leaves the list as it is. -/
theorem OnPage.goToPage (h : OnPage l) (page : UInt32) :
    OnPage (((l.goToPage? page).map asking).getD (l, [])).1 := by
  cases hpage : l.goToPage? page with
  | none => exact h
  | some l' => exact onPage_of_goToPage? hpage

/-- A page that there is can be gone to. -/
theorem goToPage?_of_le {page : UInt32} (hone : 1 ≤ page) (hlast : page ≤ l.query.totalPages) :
    l.goToPage? page = some (refresh { l with query := { l.query with page := page } }) :=
  if_neg (not_or.2 ⟨UInt32.not_lt.2 hone, UInt32.not_lt.2 hlast⟩)

theorem toNat_pageBefore (h : 1 ≤ l.query.page) :
    l.pageBefore.toNat = l.query.page.toNat - 1 := by
  have hne : l.query.page ≠ 0 := fun hzero ↦ by
    rw [hzero] at h
    exact absurd h (by decide)
  rw [pageBefore, if_neg hne, UInt32.toNat_sub_of_le _ _ h, UInt32.toNat_one]

/-- Unless a list stands on the first page, there is the page before. -/
theorem OnPage.pageBefore_le (h : OnPage l) (hpage : 1 < l.query.page) :
    1 ≤ l.pageBefore ∧ l.pageBefore ≤ l.query.totalPages := by
  have hlt : 1 < l.query.page.toNat := UInt32.lt_iff_toNat_lt.1 hpage
  have hle : l.query.page.toNat ≤ l.query.totalPages.toNat :=
    UInt32.le_iff_toNat_le.1 h.le_totalPages
  rw [UInt32.le_iff_toNat_le, UInt32.le_iff_toNat_le, toNat_pageBefore h.one_le, UInt32.toNat_one]
  omega

/-- From a page that there is, there is a way back. -/
theorem OnPage.canGoBack (h : OnPage l) : CanGoBack l := by
  intro hpage
  obtain ⟨hone, hlast⟩ := h.pageBefore_le hpage
  refine ⟨_, goToPage?_of_le hone hlast, hone, ?_⟩
  show l.pageBefore < l.query.page
  have hlt : 1 < l.query.page.toNat := UInt32.lt_iff_toNat_lt.1 hpage
  rw [UInt32.lt_iff_toNat_lt, toNat_pageBefore h.one_le]
  omega

/-! ### What keeps a list on its pages -/

/-- All that the user does keeps a list on a page that there is. -/
theorem OnPage.step (h : OnPage l) {op : Op α} (hop : ∀ seq answer, op ≠ .apply seq answer) :
    OnPage (l.step op).1 := by
  have hfirst : 1 ≤ l.query.totalPages := h.one_le_totalPages
  cases op with
  | mount => exact ⟨h.one_le, h.le_totalPages⟩
  | refresh => exact ⟨h.one_le, h.le_totalPages⟩
  | search => exact ⟨UInt32.le_refl 1, hfirst⟩
  | reset => exact ⟨UInt32.le_refl 1, hfirst⟩
  | goToPage page => exact h.goToPage page
  | nextPage => exact h.goToPage l.pageAfter
  | prevPage => exact h.goToPage l.pageBefore
  | setInput input => exact ⟨h.one_le, h.le_totalPages⟩
  | typeKey key =>
    cases key with
    | char c => exact ⟨h.one_le, h.le_totalPages⟩
    | backspace => exact ⟨h.one_le, h.le_totalPages⟩
    | enter => exact ⟨UInt32.le_refl 1, hfirst⟩
  | apply seq answer => exact absurd rfl (hop seq answer)

/-- A page that is accepted leaves the list on a page that there is exactly if it tells of so many
pages. -/
theorem onPage_apply_ok_iff (h : 1 ≤ l.query.page) (page : Page α) :
    OnPage (l.apply l.latest (.ok page)).1 ↔ l.query.page ≤ page.last := by
  rw [apply_ok]
  exact ⟨fun hl ↦ hl.le_totalPages, fun hlast ↦ ⟨h, hlast⟩⟩

/-- No page that was accepted tells of fewer pages than the number of the page that was asked
for. -/
def Covered (log : List (Exchange α)) : Prop :=
  ∀ seq page, .answered seq (.ok page) .applied ∈ log →
    ∀ r ∈ requests log, r.seq = seq → r.page ≤ page.last

/-- What holds of all answers holds of the earlier ones. -/
theorem Covered.of_append (h : Covered (log ++ log')) : Covered log := by
  intro seq page hpage r hr hseq
  refine h seq page (List.mem_append_left _ hpage) r ?_ hseq
  rw [requests_append]
  exact List.mem_append_left _ hr

/-- As long as no page tells of too few pages, a list is on a page that there is. -/
theorem Run.onPage {pageSize : UInt32} (h : Run pageSize l log) (hlog : Covered log) :
    OnPage l := by
  induction h with
  | new => exact ⟨UInt32.le_refl 1, UInt32.le_refl 1⟩
  | @step l log hl op hop ih =>
    have hkept : OnPage l := ih hlog.of_append
    by_cases hanswer : ∃ seq answer, op = .apply seq answer
    · obtain ⟨seq, answer, rfl⟩ := hanswer
      show OnPage (l.apply seq answer).1
      by_cases hseq : seq = l.latest
      · subst hseq
        cases answer with
        | ok page =>
          -- the answer is prompted, so there is a latest request, and the query stands for it
          obtain ⟨r, hr, -⟩ := hop
          have hne : requests log ≠ [] := List.ne_nil_of_mem hr
          have hlast := hl.consistent.request _ (List.getLast?_eq_some_getLast hne)
          rw [onPage_apply_ok_iff hkept.one_le]
          have hmem : l.request ∈ requests log := hlast ▸ List.getLast_mem hne
          refine hlog l.latest page ?_ l.request ?_ rfl
          · simp [Listing.step, apply_ok]
          · rw [requests_append]
            exact List.mem_append_left _ hmem
        | error failure =>
          rw [apply_error]
          exact ⟨hkept.one_le, hkept.le_totalPages⟩
      · rwa [apply_of_ne hseq]
    · exact hkept.step fun seq answer hop ↦ hanswer ⟨seq, answer, hop⟩

/-! ### When the page that is shown is there -/

/-- **The page that is shown is there exactly as far as the answers tell of it.** Along every run a
page that is accepted leaves the list on a page that there is, with a way back unless it is the
first, exactly if it tells of so many pages. So if every page that was accepted tells of as many
pages as the page that was asked for, the list is always on a page that there is. -/
theorem on_page_of_run {pageSize : UInt32} (h : Run pageSize l log) :
    (∀ page : Page α,
      OnPage (l.apply l.latest (.ok page)).1 ∧ CanGoBack (l.apply l.latest (.ok page)).1 ↔
        l.query.page ≤ page.last) ∧
    (Covered log → OnPage l ∧ CanGoBack l) := by
  have hone : 1 ≤ l.query.page := h.consistent.sound.one_le_page
  refine ⟨fun page ↦ ⟨fun hl ↦ (onPage_apply_ok_iff hone page).1 hl.1, fun hlast ↦ ?_⟩,
    fun hlog ↦ ?_⟩
  · have hl := (onPage_apply_ok_iff hone page).2 hlast
    exact ⟨hl, hl.canGoBack⟩
  · have hl := h.onPage hlog
    exact ⟨hl, hl.canGoBack⟩

/-- Three pages are told of and the last is gone to: it is there, with a way back, and stays so when
the answer tells of all three again. -/
theorem last_page_stays :
    ∃ (l : Listing Nat) (log : List (Exchange Nat)), Run 10 l log ∧ Covered log ∧
      l.query.page = 3 ∧ (OnPage l ∧ CanGoBack l) ∧
      OnPage (l.apply l.latest (.ok ⟨[7], some 21, some 3⟩)).1 ∧
      CanGoBack (l.apply l.latest (.ok ⟨[7], some 21, some 3⟩)).1 := by
  have h : Run 10 (α := Nat) ⟨⟨3, 10, "", 3⟩, "", [5], some 21, .loading, 2⟩
      [.asked ⟨1, 1, 10, ""⟩, .answered 1 (.ok ⟨[5], some 21, some 3⟩) .applied,
        .asked ⟨2, 3, 10, ""⟩] :=
    .step (.step (.step .new .mount trivial) (.apply 1 (.ok ⟨[5], some 21, some 3⟩))
      ⟨_, List.mem_singleton_self _, rfl⟩) (.goToPage 3) trivial
  have hlog : Covered (α := Nat) [.asked ⟨1, 1, 10, ""⟩,
      .answered 1 (.ok ⟨[5], some 21, some 3⟩) .applied, .asked ⟨2, 3, 10, ""⟩] := by
    intro seq page hpage r hr _
    obtain rfl : page = ⟨[5], some 21, some 3⟩ := by simpa using (by simpa using hpage : _ ∧ _).2
    have hrequests : r = ⟨1, 1, 10, ""⟩ ∨ r = ⟨2, 3, 10, ""⟩ := by simpa [requests] using hr
    rcases hrequests with rfl | rfl <;> decide
  have hpages := on_page_of_run h
  exact ⟨_, _, h, hlog, rfl, hpages.2 hlog, (hpages.1 ⟨[7], some 21, some 3⟩).2 (by decide)⟩

/-- Three pages are told of and the last is gone to; when it is asked for again, the answer tells of
one page only. Then the list stands on the third page of one, without a way back. -/
theorem beyond_last_page :
    ∃ (l : Listing Nat) (log : List (Exchange Nat)), Run 10 l log ∧
      log.getLast? = some (.answered 3 (.ok ⟨[], some 10, some 1⟩) .applied) ∧
      l.query.page = 3 ∧ l.query.totalPages = 1 ∧ ¬OnPage l ∧ ¬CanGoBack l ∧
      l.prevPage? = none ∧ l.nextPage? = none := by
  have h : Run 10 (α := Nat) _ _ :=
    .step (.step (.step (.step (.step (.step .new .mount trivial)
      (.apply 1 (.ok ⟨[5], some 21, some 3⟩)) ⟨_, List.mem_singleton_self _, rfl⟩)
      (.goToPage 3) trivial)
      (.apply 2 (.ok ⟨[7], some 21, some 3⟩)) ⟨⟨2, 3, 10, ""⟩, by decide, rfl⟩)
      .refresh trivial)
      (.apply 3 (.ok ⟨[], some 10, some 1⟩)) ⟨⟨3, 3, 10, ""⟩, by decide, rfl⟩
  refine ⟨_, _, h, rfl, rfl, rfl, fun hl ↦ ?_, fun hl ↦ ?_, rfl, rfl⟩
  · exact absurd hl.le_totalPages (by decide)
  · obtain ⟨l', hl', -⟩ := hl (by decide)
    cases hl'

end Listing

end PitchDesk
