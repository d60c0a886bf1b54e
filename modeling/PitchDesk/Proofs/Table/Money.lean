import Mathlib.Data.List.Basic
import PitchDesk.Proofs.Text.Decimal
import PitchDesk.Table.Cell

/-!
# Amounts read back

An amount is written with its digits in groups, `Money.IsGrouping`: whether a comma stands after a
digit depends on how many digits follow, so the induction goes from the front and keeps that as
many digits stand in the first group as are left over, `Money.exists_groups`. The commas are all
that is added, `Money.filter_isDigit_grouped`.

So the digits of the whole text denote the amount without its sign, and every amount comes back
from its text, `Money.amount_comes_back`.

The reading used here is as simple as can be: all digits of the text, and the sign that it begins
with. That it gives back the amount says that nothing of the number is lost or doubled on the way,
and `IsGrouping` says separately that the text looks as it should. Dollars and cents are those of
the absolute value, which is taken as an integer, so the least of all amounts is no exception.
-/

namespace PitchDesk.Money

open Text

/-- Digits stand in groups as an amount has them: at most three in the first group and three in each
of the others, and no zero first unless it stands alone. -/
structure IsGrouping (first : List Char) (rest : List (List Char)) : Prop where
  isDigit : ∀ group ∈ first :: rest, ∀ c ∈ group, c.isDigit = true
  first_ne_nil : first ≠ []
  length_first : first.length ≤ 3
  length_rest : ∀ group ∈ rest, group.length = 3
  leading_zero : first.head? = some '0' → first = ['0'] ∧ rest = []

/-- The amount that the digits of a text denote, with the sign that it begins with. -/
def value (text : String) : Int :=
  (if text.toList.head? = some '-' then -1 else 1) *
    Nat.ofDigitChars 10 (text.toList.filter Char.isDigit) 0

/-! ### Groups -/

/-- Digits are written in groups of three, with those that are left over before them. -/
theorem exists_groups {ds : List Char} (h : ds ≠ []) :
    ∃ first rest, (first :: rest).flatten = ds ∧
      grouped ds = [','].intercalate (first :: rest) ∧ first ≠ [] ∧ first.length ≤ 3 ∧
      first.length % 3 = ds.length % 3 ∧ ∀ group ∈ rest, group.length = 3 := by
  induction ds with
  | nil => exact absurd rfl h
  | cons d ds ih =>
    cases ds with
    | nil => exact ⟨[d], [], rfl, rfl, by simp, by simp, rfl, by simp⟩
    | cons d' ds =>
      obtain ⟨first, rest, hflat, hgrouped, hne, hle, hmod, hrest⟩ := ih (by simp)
      rw [grouped]
      simp only [List.length_cons] at hmod ⊢
      by_cases hthird : (ds.length + 1) % 3 = 0
      · -- a full group follows, so the digit stands in a group of its own
        have hfirst : first.length = 3 := by
          have hpos := List.length_pos_iff.2 hne
          omega
        refine ⟨[d], first :: rest, by simpa using hflat, ?_, by simp, by simp, ?_, ?_⟩
        · rw [if_pos ⟨hthird, by simp⟩, hgrouped, List.intercalate_cons_cons]
          rfl
        · rw [List.length_singleton]
          omega
        · exact List.forall_mem_cons.2 ⟨hfirst, hrest⟩
      · -- the first group has room for the digit
        refine ⟨d :: first, rest, by simpa using hflat, ?_, by simp, ?_, ?_, hrest⟩
        · rw [if_neg fun hd ↦ hthird hd.1, hgrouped]
          cases rest with
          | nil => simp
          | cons group rest => simp [List.intercalate_cons_cons]
        · rw [List.length_cons]
          omega
        · rw [List.length_cons]
          omega

/-- The digits of a number stand in groups as an amount has them. -/
theorem exists_isGrouping (n : Nat) :
    ∃ first rest, IsGrouping first rest ∧
      grouped (Nat.toDigits 10 n) = [','].intercalate (first :: rest) := by
  obtain ⟨first, rest, hflat, hgrouped, hne, hle, -, hrest⟩ :=
    exists_groups (Nat.toDigits_ne_nil : Nat.toDigits 10 n ≠ [])
  refine ⟨first, rest, ⟨?_, hne, hle, hrest, ?_⟩, hgrouped⟩
  · intro group hgroup c hc
    refine isDigit_of_mem_toDigits (n := n) ?_
    rw [← hflat]
    exact List.mem_flatten.2 ⟨group, hgroup, hc⟩
  · intro hzero
    have hhead : (Nat.toDigits 10 n).head? = some '0' := by
      rw [← hflat, List.flatten_cons, List.head?_append_of_ne_nil _ hne, hzero]
    -- zero has one digit, which leaves nothing for the other groups
    rw [toDigits_head?_zero hhead, Nat.toDigits_zero, List.flatten_cons] at hflat
    obtain ⟨c, cs, rfl⟩ := List.exists_cons_of_ne_nil hne
    simp only [List.cons_append, List.cons.injEq, List.append_eq_nil_iff] at hflat
    obtain ⟨rfl, rfl, hempty⟩ := hflat
    refine ⟨rfl, List.eq_nil_iff_forall_not_mem.2 fun group hgroup ↦ ?_⟩
    have hlength := hrest group hgroup
    rw [List.flatten_eq_nil_iff.1 hempty group hgroup] at hlength
    cases hlength

/-- Commas are all that is added to digits. -/
theorem filter_isDigit_grouped {ds : List Char} (h : ∀ c ∈ ds, c.isDigit = true) :
    (grouped ds).filter Char.isDigit = ds := by
  induction ds with
  | nil => rfl
  | cons d ds ih =>
    obtain ⟨hd, hds⟩ := List.forall_mem_cons.1 h
    have hcomma : ','.isDigit = false := rfl
    rw [grouped]
    split <;> simp [hd, hcomma, ih hds]

/-! ### The text of an amount -/

theorem toList_toText (cents : Int64) :
    (toText cents).toList = (if cents.toInt < 0 then ['-'] else []) ++
      '$' :: grouped (Nat.toDigits 10 (cents.toInt.natAbs / 100)) ++
      '.' :: (padded 2 (cents.toInt.natAbs % 100)).toList := by
  simp only [toText, String.toList_append, Nat.toString_eq_ofList_toDigits, String.toList_ofList]
  split <;> simp

/-- An amount has a sign exactly if it is negative. -/
theorem head?_toText {cents : Int64} :
    (toText cents).toList.head? = some '-' ↔ cents.toInt < 0 := by
  rw [toList_toText]
  split <;> simp_all

/-- The digits of an amount are those of the dollars and of the cents. -/
theorem filter_isDigit_toText (cents : Int64) :
    (toText cents).toList.filter Char.isDigit =
      Nat.toDigits 10 (cents.toInt.natAbs / 100) ++
        (padded 2 (cents.toInt.natAbs % 100)).toList := by
  have hsign : (if cents.toInt < 0 then ['-'] else []).filter Char.isDigit = [] := by
    split <;> rfl
  have hplaces : (padded 2 (cents.toInt.natAbs % 100)).toList.filter Char.isDigit =
      (padded 2 (cents.toInt.natAbs % 100)).toList :=
    List.filter_eq_self.2 fun _ ↦ isDigit_of_mem_padded
  rw [toList_toText, List.filter_append, List.filter_append, hsign,
    List.filter_cons_of_neg (by decide), filter_isDigit_grouped fun _ ↦ isDigit_of_mem_toDigits,
    List.filter_cons_of_neg (by decide), hplaces, List.nil_append]

theorem length_places (cents : Int64) :
    (padded 2 (cents.toInt.natAbs % 100)).toList.length = 2 :=
  length_padded (by decide) (Nat.mod_lt _ (by decide) : _ < 100)

/-- The digits of an amount and its sign denote the amount. -/
theorem value_toText (cents : Int64) : value (toText cents) = cents.toInt := by
  have hplaces : Nat.ofDigitChars 10 (padded 2 (cents.toInt.natAbs % 100)).toList 0 =
      cents.toInt.natAbs % 100 := by
    have hvalue := digitsValue?_padded 2 (cents.toInt.natAbs % 100)
    rwa [digitsValue?_eq fun _ ↦ isDigit_of_mem_padded, Option.some.injEq] at hvalue
  have hamount : Nat.ofDigitChars 10 ((toText cents).toList.filter Char.isDigit) 0 =
      cents.toInt.natAbs := by
    rw [filter_isDigit_toText, Nat.ofDigitChars_append, Nat.ofDigitChars_ten_toDigits,
      Nat.ofDigitChars_eq_ofDigitChars_zero, hplaces, length_places]
    exact Nat.div_add_mod _ 100
  rw [value, hamount]
  simp only [head?_toText]
  split <;> omega

/-- **Every amount comes back from its text.** An amount is written with a sign if it is negative
and only then, a dollar sign, its dollars in groups, a point and two more digits, and the digits
with the sign denote it. So no two amounts have the same text. -/
theorem amount_comes_back (cents : Int64) :
    (∃ first rest tens ones, IsGrouping first rest ∧ tens.isDigit = true ∧ ones.isDigit = true ∧
      (toText cents).toList = (if cents.toInt < 0 then ['-'] else []) ++
        '$' :: [','].intercalate (first :: rest) ++ ['.', tens, ones]) ∧
    value (toText cents) = cents.toInt ∧
    ∀ other, toText other = toText cents ↔ other = cents := by
  refine ⟨?_, value_toText cents, fun other ↦ ⟨fun h ↦ ?_, fun h ↦ by rw [h]⟩⟩
  · obtain ⟨first, rest, hgrouping, hgrouped⟩ := exists_isGrouping (cents.toInt.natAbs / 100)
    obtain ⟨tens, ones, hplaces⟩ := List.length_eq_two.1 (length_places cents)
    have hdigit : ∀ c ∈ [tens, ones], c.isDigit = true := fun _ hc ↦
      isDigit_of_mem_padded (hplaces ▸ hc)
    refine ⟨first, rest, tens, ones, hgrouping, hdigit _ (by simp), hdigit _ (by simp), ?_⟩
    rw [toList_toText, hgrouped, hplaces]
  · have hvalue := congrArg value h
    rw [value_toText, value_toText] at hvalue
    exact Int64.toInt_inj.1 hvalue

/-- The least amount of all. -/
example : toText Int64.minValue = "-$92,233,720,368,547,758.08" := by
  decide +kernel

end PitchDesk.Money
