import Mathlib.Data.List.Infix
import Mathlib.Data.List.TakeWhile
import PitchDesk.Text.Blank

/-!
# Beginnings and ends

A list is taken apart at a given beginning or end exactly if it has it, `dropPrefix?_eq_some_iff`
and `dropSuffix?_eq_some_iff`. An end that has nothing of what stands in front of a list is an end
of what stands behind, `suffix_of_suffix_append`. A list is cut at the first place where its
pattern stands, and that cannot be before the first element of the pattern (`cutAt?_append`). What
stands after the last occurrence of an element is told by having none itself, `afterLast_eq_iff`.

Nothing here is about characters: texts are taken apart as lists, and where a statement needs to
know that some element does not occur, it asks for that and for no more. That is how units are told
from numerals, schemes from the rest of a path, and segments from each other.
-/

namespace PitchDesk.Text

variable {α : Type}

section Drop

variable [BEq α] [LawfulBEq α] {affix cs rest : List α}

/-- What is left behind a beginning is the rest of the list. -/
theorem dropPrefix?_eq_some_iff : dropPrefix? affix cs = some rest ↔ cs = affix ++ rest := by
  induction affix generalizing cs with
  | nil => simp [dropPrefix?]
  | cons c affix ih =>
    cases cs with
    | nil => simp [dropPrefix?]
    | cons d cs =>
      by_cases h : c = d
      · simp [dropPrefix?, h, ih]
      · simp [dropPrefix?, h, Ne.symm h]

/-- What is left before an end is the rest of the list. -/
theorem dropSuffix?_eq_some_iff : dropSuffix? affix cs = some rest ↔ cs = rest ++ affix := by
  rw [dropSuffix?, Option.map_eq_some_iff]
  constructor
  · rintro ⟨before, hbefore, rfl⟩
    have hcs := congrArg List.reverse (dropPrefix?_eq_some_iff.1 hbefore)
    simpa using hcs
  · rintro rfl
    exact ⟨rest.reverse, by simp [dropPrefix?_eq_some_iff], by simp⟩

end Drop

/-- An end with nothing of the front reaches no further than to the front. -/
theorem suffix_of_suffix_append {p : α → Bool} {front back cs : List α}
    (hfront : ∀ c ∈ front, p c = true) (hcs : ∀ c ∈ cs, p c = false)
    (h : cs <:+ front ++ back) : cs <:+ back := by
  rcases List.suffix_or_suffix_of_suffix h (List.suffix_append front back) with
    hshort | ⟨more, rfl⟩
  · exact hshort
  · obtain ⟨before, hbefore⟩ := h
    rw [← List.append_assoc] at hbefore
    -- whatever it had beyond the back would be of the front
    obtain rfl : more = [] := by
      rw [List.eq_nil_iff_forall_not_mem]
      intro c hc
      have hmem : c ∈ front := by
        rw [← List.append_cancel_right hbefore]
        exact List.mem_append_right _ hc
      have hp := hcs c (List.mem_append_left _ hc)
      rw [hfront c hmem] at hp
      cases hp
    exact List.suffix_refl _

/-! ### Cutting -/

section Cut

variable [BEq α] [LawfulBEq α] {pattern before after cs : List α} {x : α}

/-- A list is cut where its pattern stands. -/
theorem eq_of_cutAt? (h : cutAt? pattern cs = some (before, after)) :
    cs = before ++ pattern ++ after := by
  induction cs generalizing before with
  | nil =>
    rw [cutAt?] at h
    split at h
    · rename_i hempty
      cases h
      rw [List.isEmpty_iff.1 hempty]
      rfl
    · cases h
  | cons c cs ih =>
    rw [cutAt?] at h
    split at h
    · rename_i rest hrest
      cases h
      exact dropPrefix?_eq_some_iff.1 hrest
    · obtain ⟨⟨before', after'⟩, hcut, heq⟩ := Option.map_eq_some_iff.1 h
      cases heq
      rw [ih hcut]
      rfl

/-- A list is cut where its pattern stands after a part without the first element of the pattern. -/
theorem cutAt?_append (h : x ∉ before) :
    cutAt? (x :: pattern) (before ++ (x :: pattern) ++ after) = some (before, after) := by
  induction before with
  | nil =>
    have hprefix : dropPrefix? (x :: pattern) (x :: (pattern ++ after)) = some after :=
      dropPrefix?_eq_some_iff.2 rfl
    rw [List.nil_append, List.cons_append, cutAt?, hprefix]
  | cons c before ih =>
    obtain ⟨hc, hbefore⟩ := List.ne_and_not_mem_of_not_mem_cons h
    have hprefix :
        dropPrefix? (x :: pattern) (c :: (before ++ (x :: pattern) ++ after)) = none := by
      rw [dropPrefix?, beq_eq_false_iff_ne.2 hc]
      rfl
    rw [List.cons_append, List.cons_append, cutAt?, hprefix, ih hbefore]
    rfl

/-- What stands after the last occurrence of an element has none, and is the whole list only if that
has none. -/
theorem afterLast_eq_iff {last : List α} :
    afterLast x cs = last ↔ x ∉ last ∧ (cs = last ∨ ∃ front, cs = front ++ x :: last) := by
  constructor
  · rintro rfl
    have hcs : cs = (cs.reverse.dropWhile (· != x)).reverse ++ afterLast x cs := by
      rw [afterLast, ← List.reverse_append, List.takeWhile_append_dropWhile, List.reverse_reverse]
    refine ⟨fun hx ↦ ?_, ?_⟩
    · have hne := List.mem_takeWhile_imp (List.mem_reverse.1 hx)
      simp at hne
    · cases hrest : cs.reverse.dropWhile (· != x) with
      | nil => exact .inl (by rwa [hrest] at hcs)
      | cons y rest =>
        have hy := List.head?_dropWhile_not (· != x) cs.reverse
        simp only [hrest, List.head?_cons, bne_eq_false_iff_eq] at hy
        refine .inr ⟨rest.reverse, ?_⟩
        rwa [hrest, hy, List.reverse_cons, List.append_assoc] at hcs
  · rintro ⟨hlast, hcs⟩
    have hwhile : ∀ c ∈ last.reverse, (c != x) = true := fun c hc ↦
      bne_iff_ne.2 fun h ↦ hlast (h ▸ List.mem_reverse.1 hc)
    rcases hcs with rfl | ⟨front, rfl⟩
    · rw [afterLast, List.takeWhile_eq_self_iff.2 hwhile, List.reverse_reverse]
    · rw [afterLast, List.reverse_append, List.reverse_cons, List.append_assoc,
        List.takeWhile_append_of_pos hwhile, List.singleton_append,
        List.takeWhile_cons_of_neg (by simp), List.append_nil, List.reverse_reverse]

omit [LawfulBEq α] in
/-- A front that ends with an element does not count for what stands after the last. -/
theorem afterLast_append {front : List α} (h : afterLast x front = []) :
    afterLast x (front ++ cs) = afterLast x cs := by
  have hfront : front.reverse.takeWhile (· != x) = [] := List.reverse_eq_nil_iff.1 h
  rw [afterLast, afterLast, List.reverse_append, List.takeWhile_append, hfront, List.append_nil]
  split
  · rename_i hlength
    rw [(List.takeWhile_prefix _).eq_of_length hlength]
  · rfl

end Cut

end PitchDesk.Text
