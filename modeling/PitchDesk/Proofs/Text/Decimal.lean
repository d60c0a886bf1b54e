import Mathlib.Data.List.Basic
import PitchDesk.Text.Decimal

/-!
# Digits read back

The digits of a number with zeros before them still denote the number, `digitsValue?_padded`, and
if the number is not too great there are as many of them as were asked for, `length_padded`.
Without zeros before them, only the digits of zero start with a zero, `toDigits_head?_zero`.

What is read as a number is a numeral of it: its digits, any zeros before them, and one optional
`+`. A number below a bound is read exactly from its numerals, `readNumber_eq_ok_iff`.

Digits are read from the front, with the number that they denote so far carried along, and reading
stops as soon as that reaches the bound. The inductions are on the digits for every number carried
along; that reading may stop early is no loss, because more digits never denote less
(`le_ofDigitChars`). What digits denote is `Nat.ofDigitChars`, so that what is known of digits
elsewhere can be used.
-/

namespace PitchDesk.Text

/-! ### Digits -/

theorem digitValue?_eq_some {c : Char} (h : c.isDigit = true) :
    digitValue? c = some (c.toNat - '0'.toNat) := by
  have hc : '0' ≤ c ∧ c ≤ '9' := by
    simpa [Char.isDigit, Char.le_def] using h
  rw [digitValue?, if_pos hc]

theorem digitValue?_eq_none {c : Char} (h : ¬c.isDigit = true) : digitValue? c = none := by
  refine if_neg fun hc ↦ h ?_
  simpa [Char.isDigit, Char.le_def] using hc

/-- What some digits denote. -/
theorem digitsValue?_eq {cs : List Char} (h : ∀ c ∈ cs, c.isDigit = true) (soFar : Nat) :
    digitsValue? soFar cs = some (Nat.ofDigitChars 10 cs soFar) := by
  induction cs generalizing soFar with
  | nil => rfl
  | cons c cs ih =>
    obtain ⟨hc, hcs⟩ := List.forall_mem_cons.1 h
    rw [digitsValue?, digitValue?_eq_some hc, Nat.ofDigitChars_cons, Nat.mul_comm 10]
    exact ih hcs _

/-- More digits denote no smaller number. -/
theorem le_ofDigitChars (cs : List Char) (soFar : Nat) : soFar ≤ Nat.ofDigitChars 10 cs soFar := by
  rw [Nat.ofDigitChars_eq_ofDigitChars_zero]
  exact Nat.le_add_right_of_le (Nat.le_mul_of_pos_left _ (Nat.pow_pos (by decide)))

/-- The digits of a number are digits. -/
theorem isDigit_of_mem_toDigits {n : Nat} {c : Char} (h : c ∈ Nat.toDigits 10 n) :
    c.isDigit = true :=
  Nat.isDigit_of_mem_toDigits (by decide) (by decide) h

/-- Only the digits of zero start with a zero. -/
theorem toDigits_head?_zero {n : Nat} (h : (Nat.toDigits 10 n).head? = some '0') : n = 0 := by
  induction n using Nat.strongRecOn with
  | ind n ih =>
    by_cases hn : n < 10
    · rw [Nat.toDigits_of_lt_base hn] at h
      have hdigit : ∀ d, d < 10 → Nat.digitChar d = '0' → d = 0 := by decide
      exact hdigit n hn (Option.some.inj h)
    · rw [Nat.toDigits_of_base_le (by decide) (by omega),
        List.head?_append_of_ne_nil _ Nat.toDigits_ne_nil] at h
      have hzero := ih (n / 10) (by omega) h
      omega

/-! ### A least number of digits -/

/-- A padded number is its digits with the zeros that are missing before them. -/
theorem toList_padded (width n : Nat) :
    (padded width n).toList =
      List.replicate (width - (Nat.toDigits 10 n).length) '0' ++ Nat.toDigits 10 n := by
  simp only [padded, Nat.toString_eq_ofList_toDigits, String.toList_append, String.toList_ofList,
    String.length_ofList]

theorem isDigit_of_mem_padded {width n : Nat} {c : Char} (h : c ∈ (padded width n).toList) :
    c.isDigit = true := by
  rw [toList_padded, List.mem_append] at h
  rcases h with h | h
  · rw [List.eq_of_mem_replicate h]
    rfl
  · exact isDigit_of_mem_toDigits h

/-- Zeros before its digits do not change what a number reads as. -/
theorem digitsValue?_padded (width n : Nat) : digitsValue? 0 (padded width n).toList = some n := by
  rw [digitsValue?_eq fun _ ↦ isDigit_of_mem_padded, toList_padded, Nat.ofDigitChars_append,
    Nat.ofDigitChars_replicate_zero, Nat.mul_zero, Nat.ofDigitChars_ten_toDigits]

/-- A number that is not too great is padded to just the width. -/
theorem length_padded {width n : Nat} (hwidth : 0 < width) (hn : n < Nat.pow 10 width) :
    (padded width n).toList.length = width := by
  have hdigits := (Nat.length_toDigits_le_iff (b := 10) (by decide) hwidth).2 hn
  rw [toList_padded, List.length_append, List.length_replicate]
  omega

/-! ### Numerals -/

/-- A numeral of a number: one or more digits that denote it, with one optional `+` before them. -/
def IsNumeral (cs : List Char) (n : Nat) : Prop :=
  ∃ digits, (cs = digits ∨ cs = '+' :: digits) ∧ digits ≠ [] ∧
    (∀ c ∈ digits, c.isDigit = true) ∧ Nat.ofDigitChars 10 digits 0 = n

/-- The characters of numerals. -/
def isNumeralChar (c : Char) : Bool :=
  c == '+' || c.isDigit

theorem IsNumeral.forall_isNumeralChar {cs : List Char} {n : Nat} (h : IsNumeral cs n) :
    ∀ c ∈ cs, isNumeralChar c = true := by
  obtain ⟨digits, hcs, -, hdigits, -⟩ := h
  have hdigit : ∀ c ∈ digits, isNumeralChar c = true := fun c hc ↦ by
    simp [isNumeralChar, hdigits c hc]
  rcases hcs with rfl | rfl
  · exact hdigit
  · exact List.forall_mem_cons.2 ⟨rfl, hdigit⟩

/-- Digits that denote a number below a bound are read, and nothing else is. -/
theorem readDigits_eq_ok_iff {bound soFar n : Nat} {cs : List Char} (hbound : soFar < bound) :
    readDigits bound soFar cs = .ok n ↔
      (∀ c ∈ cs, c.isDigit = true) ∧ Nat.ofDigitChars 10 cs soFar = n ∧ n < bound := by
  induction cs generalizing soFar with
  | nil =>
    simp only [readDigits, Except.ok.injEq, Nat.ofDigitChars_nil, List.not_mem_nil, false_implies,
      implies_true, true_and]
    exact ⟨fun h ↦ ⟨h, h ▸ hbound⟩, fun h ↦ h.1⟩
  | cons c cs ih =>
    by_cases hc : c.isDigit = true
    · rw [readDigits, digitValue?_eq_some hc, Nat.ofDigitChars_cons, Nat.mul_comm 10]
      simp only [List.forall_mem_cons, hc, true_and]
      split
      · rename_i hlt
        exact ih hlt
      · -- what is too great so far does not become smaller
        rename_i hge
        refine ⟨nofun, fun ⟨_, hn, hlt⟩ ↦ absurd (Nat.lt_of_le_of_lt ?_ hlt) hge⟩
        exact hn ▸ le_ofDigitChars cs _
    · simp [readDigits, digitValue?_eq_none hc, hc]

/-- A text is what is left of it without a `+`, or it begins with one. -/
theorem unsigned_cases (cs : List Char) : cs = unsigned cs ∨ cs = '+' :: unsigned cs := by
  unfold unsigned
  split
  · exact .inr rfl
  · exact .inl rfl

theorem unsigned_ne_nil {cs : List Char} (h : cs ≠ []) : unsigned cs ≠ [] := by
  unfold unsigned
  split
  · exact List.cons_ne_nil _ _
  · exact h

theorem unsigned_of_isDigit {cs : List Char} (h : ∀ c ∈ cs, c.isDigit = true) :
    unsigned cs = cs := by
  unfold unsigned
  split
  · exact absurd (h '+' (List.mem_cons_self ..)) (by decide)
  · rfl

/-- **A number below a bound is read exactly from its numerals.** -/
theorem readNumber_eq_ok_iff {bound n : Nat} {cs : List Char} (hbound : 0 < bound) :
    readNumber bound cs = .ok n ↔ IsNumeral cs n ∧ n < bound := by
  rw [readNumber]
  cases cs with
  | nil => simp [IsNumeral]
  | cons c cs =>
    rw [List.isEmpty_cons, if_neg Bool.false_ne_true, readDigits_eq_ok_iff hbound]
    constructor
    · rintro ⟨hdigits, hn, hlt⟩
      exact ⟨⟨_, unsigned_cases _, unsigned_ne_nil (List.cons_ne_nil _ _), hdigits, hn⟩, hlt⟩
    · rintro ⟨⟨digits, hcs, hne, hdigits, hn⟩, hlt⟩
      have hunsigned : unsigned (c :: cs) = digits := by
        rcases hcs with hcs | hcs
        · rw [hcs, unsigned_of_isDigit hdigits]
        · obtain ⟨d, ds, rfl⟩ := List.exists_cons_of_ne_nil hne
          rw [hcs]
          rfl
      rw [hunsigned]
      exact ⟨hdigits, hn, hlt⟩

/-- A numeral denotes one number. -/
theorem IsNumeral.unique {cs : List Char} {n n' : Nat} (h : IsNumeral cs n)
    (h' : IsNumeral cs n') : n = n' := by
  -- below a bound above both numbers, either is read
  have hread (m : Nat) (hm : IsNumeral cs m) (hlt : m < n + n' + 1) :
      readNumber (n + n' + 1) cs = .ok m :=
    (readNumber_eq_ok_iff (Nat.succ_pos _)).2 ⟨hm, hlt⟩
  have hn := hread n h (by omega)
  rw [hread n' h' (by omega)] at hn
  exact (Except.ok.inj hn).symm

end PitchDesk.Text
