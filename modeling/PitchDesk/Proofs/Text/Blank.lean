import Mathlib.Data.List.DropRight
import PitchDesk.Text.Blank

/-!
# Trimming

Trimming is idempotent: dropping from the end of a list does not touch its head unless nothing is
left, so nothing remains to be dropped from the front, and the other way around. So what is left of
a text is not blank, unless nothing is left. It is the only part of the text with nothing to be
dropped at its ends and nothing else around it, `stripWhile_eq_iff`.

What is to be dropped is any property of elements. Blanks are one case, the slashes at the ends of
an address or of a route are another.
-/

namespace PitchDesk.Text

variable {α : Type} {p : α → Bool} {cs core front back : List α}

/-- A list that begins with nothing to be dropped still does so when its end is dropped. -/
theorem dropWhile_dropEndWhile (h : cs.dropWhile p = cs) :
    (dropEndWhile p cs).dropWhile p = dropEndWhile p cs := by
  rw [List.dropWhile_eq_self_iff] at h ⊢
  intro hl
  have hhead : dropEndWhile p cs <+: cs := List.rdropWhile_prefix p cs
  rw [hhead.getElem hl]
  exact h (Nat.lt_of_lt_of_le hl hhead.length_le)

/-- Nothing is left to be dropped from a list whose ends were dropped. -/
theorem stripWhile_stripWhile : stripWhile p (stripWhile p cs) = stripWhile p cs := by
  have hfront : (stripWhile p cs).dropWhile p = stripWhile p cs :=
    dropWhile_dropEndWhile (List.dropWhile_idempotent p cs)
  show dropEndWhile p ((stripWhile p cs).dropWhile p) = stripWhile p cs
  rw [hfront]
  exact List.rdropWhile_idempotent p _

/-- All of a list is dropped if all of it is to be dropped. -/
theorem stripWhile_of_all (h : cs.all p = true) : stripWhile p cs = [] := by
  have hfront : cs.dropWhile p = [] := List.dropWhile_eq_nil_iff.2 (List.all_eq_true.1 h)
  rw [stripWhile, hfront]
  rfl

/-- All of a list is dropped only if all of it is to be dropped. -/
theorem stripWhile_eq_nil_iff : stripWhile p cs = [] ↔ cs.all p = true := by
  refine ⟨fun h ↦ ?_, stripWhile_of_all⟩
  have hend : ∀ c ∈ cs.dropWhile p, p c = true := List.rdropWhile_eq_nil_iff.1 h
  cases hfront : cs.dropWhile p with
  | nil => exact List.all_eq_true.2 (List.dropWhile_eq_nil_iff.1 hfront)
  | cons c rest =>
    have hhead := List.head_dropWhile_not p (l := cs) (by simp [hfront])
    simp only [hfront, List.head_cons] at hhead
    rw [hend c (by simp [hfront])] at hhead
    cases hhead

/-! ### What is left -/

/-- Nothing is to be dropped from the ends of a list. -/
structure IsStripped (p : α → Bool) (cs : List α) : Prop where
  head : ∀ c, cs.head? = some c → p c = false
  last : ∀ c, cs.getLast? = some c → p c = false

/-- Where nothing is to be dropped at the ends, nothing is dropped. -/
theorem IsStripped.stripWhile_eq (h : IsStripped p cs) : stripWhile p cs = cs := by
  have hfront : cs.dropWhile p = cs := by
    rw [List.dropWhile_eq_self_iff]
    intro hl
    rw [h.head _ (List.head?_eq_getElem?.trans (List.getElem?_eq_getElem hl))]
    exact Bool.false_ne_true
  have hback : dropEndWhile p cs = cs := by
    refine List.rdropWhile_eq_self_iff.2 fun hl ↦ ?_
    rw [h.last _ (List.getLast?_eq_some_getLast hl)]
    exact Bool.false_ne_true
  rw [stripWhile, hfront, hback]

/-- When the ends of a list were dropped, nothing more is to be dropped there. -/
theorem isStripped_stripWhile (p : α → Bool) (cs : List α) : IsStripped p (stripWhile p cs) where
  head c hc := by
    have hfront : (stripWhile p cs).dropWhile p = stripWhile p cs :=
      dropWhile_dropEndWhile (List.dropWhile_idempotent p cs)
    rw [← hfront] at hc
    simpa [hc] using List.head?_dropWhile_not p (stripWhile p cs)
  last c hc := by
    rw [← List.head?_reverse, stripWhile, dropEndWhile, List.reverse_reverse] at hc
    simpa [hc] using List.head?_dropWhile_not p (cs.dropWhile p).reverse

/-- What is to be dropped at the ends of a list makes no difference. -/
theorem stripWhile_append (hfront : ∀ c ∈ front, p c = true) (hback : ∀ c ∈ back, p c = true) :
    stripWhile p (front ++ cs ++ back) = stripWhile p cs := by
  rw [List.append_assoc, stripWhile, stripWhile, List.dropWhile_append_of_pos hfront,
    List.dropWhile_append]
  split
  · rename_i hempty
    rw [List.isEmpty_iff.1 hempty, List.dropWhile_eq_nil_iff.2 hback]
  · rw [dropEndWhile, List.reverse_append,
      List.dropWhile_append_of_pos fun c hc ↦ hback c (List.mem_reverse.1 hc), dropEndWhile]

/-- **What is left of a list when its ends are dropped** is the part of it with nothing to be
dropped at its ends, and only what is to be dropped around it. -/
theorem stripWhile_eq_iff :
    stripWhile p cs = core ↔
      IsStripped p core ∧ ∃ front back, cs = front ++ core ++ back ∧
        ∀ c ∈ front ++ back, p c = true := by
  constructor
  · rintro rfl
    refine ⟨isStripped_stripWhile p cs, cs.takeWhile p, (cs.dropWhile p).rtakeWhile p, ?_, ?_⟩
    · have hend : stripWhile p cs ++ (cs.dropWhile p).rtakeWhile p = cs.dropWhile p :=
        List.rdropWhile_append_rtakeWhile
      rw [List.append_assoc, hend, List.takeWhile_append_dropWhile]
    · intro c hc
      rcases List.mem_append.1 hc with hc | hc
      · exact List.mem_takeWhile_imp hc
      · exact List.mem_rtakeWhile_imp hc
  · rintro ⟨hcore, front, back, rfl, hends⟩
    obtain ⟨hfront, hback⟩ := List.forall_mem_append.1 hends
    rw [stripWhile_append hfront hback, hcore.stripWhile_eq]

/-! ### Texts -/

/-- A trimmed text stays as it is when it is trimmed again. -/
@[simp]
theorem trim_trim (s : String) : trim (trim s) = trim s := by
  simp [trim, stripWhile_stripWhile]

@[simp]
theorem trim_empty : trim "" = "" :=
  rfl

/-- Nothing is left of a text when it is trimmed exactly if it is blank. -/
theorem trim_eq_empty_iff {s : String} : trim s = "" ↔ isBlankText s = true := by
  rw [trim, isBlankText, ← stripWhile_eq_nil_iff, String.ofList_eq_empty_iff]

/-- What is left of a text when it is trimmed is not blank, if anything is left. -/
theorem isBlankText_trim {s : String} (h : trim s ≠ "") : isBlankText (trim s) = false := by
  rwa [← Bool.not_eq_true, ← trim_eq_empty_iff, trim_trim]

end PitchDesk.Text
