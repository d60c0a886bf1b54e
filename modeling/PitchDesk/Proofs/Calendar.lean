import Mathlib.Data.List.Basic
import PitchDesk.Calendar
import PitchDesk.Proofs.Text.Decimal

/-!
# Dates read back

The parts of a date stand at fixed places of its text, since no year of the calendar has more than
four digits and no month or day more than two. So every date comes back from its text,
`Date.read?_toText`.

A year before the year 0 is written with a sign in front of its four digits, and no year without a
sign begins with one. So the sign is read first, and what follows is the same text in either case
(`Date.readUnsigned?_padded`). That the parts make a day of the calendar again is carried by the
date itself.
-/

namespace PitchDesk

namespace Calendar

variable {year : Int} {month day : Nat}

theorem IsDay.month_lt (h : IsDay year month day) : month < 100 := by
  obtain ⟨-, -, hone, hdays⟩ := h
  unfold daysIn at hdays
  split at hdays <;> omega

theorem IsDay.day_lt (h : IsDay year month day) : day < 100 := by
  obtain ⟨-, -, hone, hdays⟩ := h
  unfold daysIn at hdays
  split at hdays
  all_goals try omega
  split at hdays <;> omega

end Calendar

namespace Date

open Text

/-- The text of a date without its sign is read with the sign that is given. -/
theorem readUnsigned?_padded (sign : Int) {year month day : Nat} (hyear : year < 10000)
    (hmonth : month < 100) (hday : day < 100) :
    readUnsigned? sign
        ((padded 4 year ++ "-" ++ padded 2 month ++ "-" ++ padded 2 day).toList) =
      of? (sign * year) month day := by
  have hyears := digitsValue?_padded 4 year
  have hmonths := digitsValue?_padded 2 month
  have hdays := digitsValue?_padded 2 day
  obtain ⟨y₁, y₂, y₃, y₄, hy⟩ := List.length_eq_four.1 (length_padded (by decide) hyear)
  obtain ⟨m₁, m₂, hm⟩ := List.length_eq_two.1 (length_padded (by decide) hmonth)
  obtain ⟨d₁, d₂, hd⟩ := List.length_eq_two.1 (length_padded (by decide) hday)
  rw [hy] at hyears
  rw [hm] at hmonths
  rw [hd] at hdays
  simp [hy, hm, hd, readUnsigned?, hyears, hmonths, hdays]

/-- Without a sign, a year starts with a digit. -/
theorem isDigit_of_toList_padded {year : Nat} {month day : String} {c : Char} {cs : List Char}
    (hyear : year < 10000)
    (h : (padded 4 year ++ "-" ++ month ++ "-" ++ day).toList = c :: cs) : c.isDigit = true := by
  obtain ⟨y₁, y₂, y₃, y₄, hy⟩ := List.length_eq_four.1 (length_padded (by decide) hyear)
  have hc : y₁ = c := by
    simp only [String.toList_append, hy, List.cons_append] at h
    exact (List.cons.inj h).1
  have hmem : y₁ ∈ (padded 4 year).toList := by
    rw [hy]
    exact List.mem_cons_self ..
  exact hc ▸ isDigit_of_mem_padded hmem

/-- The parts of a date make up the date. -/
theorem of?_eq (d : Date) : of? d.year d.month d.day = some d :=
  dif_pos d.valid

/-- **Every date comes back from its text.** -/
theorem read?_toText (d : Date) : read? d.toText = some d := by
  have hyear : d.year.natAbs < 10000 := by
    have hlow := d.valid.1
    have hhigh := d.valid.2.1
    omega
  have hread (sign : Int) := readUnsigned?_padded sign hyear d.valid.month_lt d.valid.day_lt
  unfold read? toText
  by_cases hneg : d.year < 0
  · have hsigned : -1 * (d.year.natAbs : Int) = d.year := by omega
    rw [if_pos hneg]
    simp only [String.append_assoc] at hread ⊢
    rw [String.toList_append]
    exact (hread (-1)).trans (by rw [hsigned, of?_eq])
  · have hsigned : 1 * (d.year.natAbs : Int) = d.year := by omega
    rw [if_neg hneg, String.empty_append]
    split
    · rename_i h
      exact absurd (isDigit_of_toList_padded hyear h) (by decide)
    · rename_i h
      exact absurd (isDigit_of_toList_padded hyear h) (by decide)
    · rw [hread 1, hsigned, of?_eq]

end Date

end PitchDesk
