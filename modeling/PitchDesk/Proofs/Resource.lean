import PitchDesk.Proofs.Text.Affix
import PitchDesk.Proofs.Text.Blank
import PitchDesk.Resource

/-!
# Where routes lead

A route is read from its end: slashes at either end are dropped, what stands after the last slash
that is left is the segment that counts, and blanks around the segment are dropped. Slashes go
first, so a blank between two of them keeps the second from being dropped, and the segment before
it does not count: `/events/ /` leads nowhere.

Each of the three steps is told by what it leaves, so a route leads to a view exactly if its last
segment is the code of the view with blanks around it, `Resource.ofRoute?_eq_some_iff`.

`IsLastSegment` takes a path apart without a search: slashes, a core with none at its ends, and
slashes again. What `Text.stripWhile_eq_iff` and `Text.afterLast_eq_iff` say of the two searches is
put together in `isLastSegment_iff`, and more slashes or more segments are then only another way to
take the path apart.
-/

namespace PitchDesk.Resource

open Text

variable {path segment core before : List Char} {v : Resource}

/-! ### The last segment -/

/-- A path ends with a segment, apart from slashes: only slashes stand around its core, none at the
ends of the core, and the segment has none and is the core, or what stands in it after a slash. -/
def IsLastSegment (path segment : List Char) : Prop :=
  ∃ front core back, path = front ++ core ++ back ∧ (∀ c ∈ front ++ back, c = '/') ∧
    core.head? ≠ some '/' ∧ core.getLast? ≠ some '/' ∧
    '/' ∉ segment ∧ (core = segment ∨ ∃ before, core = before ++ '/' :: segment)

theorem isStripped_slash_iff :
    IsStripped (· == '/') core ↔ core.head? ≠ some '/' ∧ core.getLast? ≠ some '/' := by
  constructor
  · rintro ⟨hhead, hlast⟩
    exact ⟨fun h ↦ absurd (hhead _ h) (by decide), fun h ↦ absurd (hlast _ h) (by decide)⟩
  · rintro ⟨hhead, hlast⟩
    refine ⟨fun c hc ↦ ?_, fun c hc ↦ ?_⟩
    · exact beq_eq_false_iff_ne.2 fun h ↦ hhead (h ▸ hc)
    · exact beq_eq_false_iff_ne.2 fun h ↦ hlast (h ▸ hc)

/-- The last segment is what stands after the last slash when those at the ends are dropped. -/
theorem isLastSegment_iff :
    IsLastSegment path segment ↔ afterLast '/' (stripWhile (· == '/') path) = segment := by
  constructor
  · rintro ⟨front, core, back, hpath, hslashes, hhead, hlast, hsegment⟩
    have hcore : stripWhile (· == '/') path = core :=
      stripWhile_eq_iff.2 ⟨isStripped_slash_iff.2 ⟨hhead, hlast⟩, front, back, hpath,
        fun c hc ↦ beq_iff_eq.2 (hslashes c hc)⟩
    rw [hcore]
    exact afterLast_eq_iff.2 hsegment
  · intro h
    obtain ⟨hcore, front, back, hpath, hslashes⟩ :=
      stripWhile_eq_iff.1 (Eq.refl (stripWhile (· == '/') path))
    obtain ⟨hhead, hlast⟩ := isStripped_slash_iff.1 hcore
    exact ⟨front, _, back, hpath, fun c hc ↦ beq_iff_eq.1 (hslashes c hc), hhead, hlast,
      afterLast_eq_iff.1 h⟩

/-! ### Codes -/

theorem parse?_eq_some_iff {s : String} : parse? s = some v ↔ trim s = v.code := by
  constructor
  · intro h
    rw [parse?] at h
    have hcode := List.find?_some h
    exact (beq_iff_eq.1 hcode).symm
  · intro h
    rw [parse?, h]
    cases v <;> rfl

theorem isStripped_code (v : Resource) : IsStripped isBlank v.code.toList := by
  constructor <;> cases v <;> rintro c ⟨⟩ <;> decide

/-- A text is read as a view if it is the code of the view with blanks around it. -/
theorem parse?_ofList_eq_some_iff :
    parse? (String.ofList segment) = some v ↔
      ∃ left right, segment = left ++ v.code.toList ++ right ∧
        ∀ c ∈ left ++ right, isBlank c = true := by
  rw [parse?_eq_some_iff, trim, ← String.toList_inj, String.toList_ofList, String.toList_ofList,
    stripWhile_eq_iff, and_iff_right (isStripped_code v)]

/-! ### More slashes, and more segments -/

/-- Slashes one after another. -/
def slashes (n : Nat) : String :=
  String.ofList (List.replicate n '/')

theorem forall_mem_slashes (n : Nat) : ∀ c ∈ (slashes n).toList, (c == '/') = true := by
  intro c hc
  rw [slashes, String.toList_ofList] at hc
  exact beq_iff_eq.2 (List.eq_of_mem_replicate hc)

/-- Slashes at either end of a route make no difference. -/
theorem ofRoute?_slashes (m n : Nat) (path : String) :
    ofRoute? (slashes m ++ path ++ slashes n) = ofRoute? path := by
  rw [ofRoute?, String.toList_append, String.toList_append,
    stripWhile_append (forall_mem_slashes m) (forall_mem_slashes n), ofRoute?]

/-- What stands behind a front that ends with a slash counts alone, unless it is of slashes only. -/
theorem afterLast_dropEndWhile_append {front : List Char} (h : afterLast '/' front = [])
    (path : List Char) :
    afterLast '/' (dropEndWhile (· == '/') (front ++ path)) =
      if path.all (· == '/') then afterLast '/' (dropEndWhile (· == '/') front)
      else afterLast '/' (dropEndWhile (· == '/') path) := by
  have hdrop : dropEndWhile (· == '/') (front ++ path) =
      if path.all (· == '/') then dropEndWhile (· == '/') front
      else front ++ dropEndWhile (· == '/') path := by
    simp only [dropEndWhile, List.reverse_append, List.dropWhile_append, List.isEmpty_iff,
      List.dropWhile_eq_nil_iff, List.all_eq_true, List.mem_reverse]
    split
    · rfl
    · rw [List.reverse_append, List.reverse_reverse]
  rw [hdrop]
  split
  · rfl
  · exact afterLast_append h

theorem afterLast_of_slashes (h : ∀ c ∈ path, (c == '/') = true) : afterLast '/' path = [] := by
  rcases List.eq_nil_or_concat' path with rfl | ⟨front, c, rfl⟩
  · rfl
  · obtain rfl := beq_iff_eq.1 (h c (by simp))
    exact afterLast_eq_iff.2 ⟨List.not_mem_nil, .inr ⟨front, rfl⟩⟩

/-- Slashes at the beginning of a path make no difference to its last segment. -/
theorem afterLast_stripWhile (path : List Char) :
    afterLast '/' (stripWhile (· == '/') path) = afterLast '/' (dropEndWhile (· == '/') path) := by
  have hfront : afterLast '/' (path.takeWhile (· == '/')) = [] :=
    afterLast_of_slashes fun c ↦ List.mem_takeWhile_imp
  have happend := afterLast_dropEndWhile_append hfront (path.dropWhile (· == '/'))
  rw [List.takeWhile_append_dropWhile] at happend
  rw [happend, stripWhile]
  split
  · rename_i hall
    have hnil {cs : List Char} (h : ∀ c ∈ cs, (c == '/') = true) :
        dropEndWhile (· == '/') cs = [] :=
      List.rdropWhile_eq_nil_iff.2 h
    rw [hnil (List.all_eq_true.1 hall), hnil fun c ↦ List.mem_takeWhile_imp]
  · rfl

/-- Segments in front count only where nothing but slashes follows them. -/
theorem ofRoute?_append (front path : String) :
    ofRoute? (front ++ "/" ++ path) =
      if path.toList.all (· == '/') then ofRoute? front else ofRoute? path := by
  have hfront : afterLast '/' (front ++ "/").toList = [] := by
    rw [String.toList_append]
    exact afterLast_eq_iff.2 ⟨List.not_mem_nil, .inr ⟨front.toList, rfl⟩⟩
  have hslash : afterLast '/' (dropEndWhile (· == '/') (front ++ "/").toList) =
      afterLast '/' (dropEndWhile (· == '/') front.toList) := by
    rw [String.toList_append, dropEndWhile, dropEndWhile, List.reverse_append]
    rfl
  simp only [ofRoute?, afterLast_stripWhile]
  rw [String.toList_append, afterLast_dropEndWhile_append hfront, hslash]
  split <;> rfl

/-- **A route leads to a view exactly if its last segment is the code of the view.**
1. Without the slashes at its ends, the route is or ends with a segment that is the code of the view
with blanks around it.
2. Any number of slashes at either end makes no difference.
3. Any segments in front make none to a route that leads to a view. A route that leads nowhere still
leads nowhere, unless it is of slashes only: then it is the segments in front that count. -/
theorem ofRoute?_eq_some_iff (path : String) (v : Resource) :
    (ofRoute? path = some v ↔
      ∃ segment, IsLastSegment path.toList segment ∧
        ∃ left right, segment = left ++ v.code.toList ++ right ∧
          ∀ c ∈ left ++ right, isBlank c = true) ∧
    (∀ m n, ofRoute? (slashes m ++ path ++ slashes n) = ofRoute? path) ∧
    ∀ front, ofRoute? (front ++ "/" ++ path) =
      (ofRoute? path).or (if path.toList.all (· == '/') then ofRoute? front else none) := by
  refine ⟨?_, fun m n ↦ ofRoute?_slashes m n path, fun front ↦ ?_⟩
  · simp only [isLastSegment_iff, exists_eq_left', ← parse?_ofList_eq_some_iff]
    rfl
  · rw [ofRoute?_append]
    split
    · rename_i hall
      have hnone : ofRoute? path = none := by
        rw [ofRoute?, stripWhile_of_all hall]
        rfl
      rw [hnone, Option.none_or]
    · rw [Option.or_none]

example : ofRoute? "//admin/ roles //" = some .roles ∧ ofRoute? "/events/ /" = none := by
  decide +kernel

end PitchDesk.Resource
