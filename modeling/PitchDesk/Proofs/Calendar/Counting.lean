import PitchDesk.Calendar

/-!
# Days counted

The days of the calendar are numbered one after another, `Date.dayNumber`, by the days of the years
before, the days of the months before, and the day of the month. The following day has the next
number, also at the end of a month and of a year. So going days ahead adds to the number and going
back takes away from it, as long as the calendar does not end there (`Date.dayNumber_plusDays`,
`Date.dayNumber_minusDays`), and the year of a day can be told from its number,
`Date.year_eq_of_dayNumber`.

The numbers are for statements only: days ahead and days back are counted on the calendar, a day at
a time, and with the numbers that becomes a sum of integers. Leap years enter twice, by `daysBefore`
for whole years and by `daysIn` for months, and `daysBefore_succ` says that both agree.
-/

namespace PitchDesk

namespace Calendar

/-! ### Months and years -/

/-- How many days there are from the beginning of the year 1 to that of another year. -/
def daysBefore (year : Int) : Int :=
  365 * (year - 1) + (year - 1) / 4 - (year - 1) / 100 + (year - 1) / 400

/-- How many days of a year there are before a month. -/
def daysBeforeMonth (year : Int) : Nat → Nat
  | 0 => 0
  | month + 1 => daysBeforeMonth year month + daysIn year month

variable {year other : Int} {month day : Nat}

/-- A year begins when the twelve months of the year before are over. -/
theorem daysBefore_succ (year : Int) :
    daysBefore (year + 1) = daysBefore year + daysBeforeMonth year 13 := by
  by_cases h : isLeap year = true
  all_goals
    simp only [daysBeforeMonth, daysIn, h, if_true, if_false, Bool.false_eq_true]
    simp only [isLeap, Bool.and_eq_true, Bool.or_eq_true, beq_iff_eq, bne_iff_ne] at h
    simp only [daysBefore]
    omega

/-- A later year begins later. -/
theorem daysBefore_le (h : year ≤ other) : daysBefore year ≤ daysBefore other := by
  simp only [daysBefore]
  omega

/-- Only the twelve months have days. -/
theorem daysIn_pos_iff : 1 ≤ daysIn year month ↔ 1 ≤ month ∧ month ≤ 12 := by
  constructor
  · intro h
    unfold daysIn at h
    split at h <;> omega
  · intro h
    unfold daysIn
    split <;> grind

theorem daysIn_december (year : Int) : daysIn year 12 = 31 :=
  rfl

theorem IsDay.month_bounds (h : IsDay year month day) : 1 ≤ month ∧ month ≤ 12 :=
  daysIn_pos_iff.1 (Nat.le_trans h.2.2.1 h.2.2.2)

theorem daysBeforeMonth_january (year : Int) : daysBeforeMonth year 1 = 0 :=
  rfl

theorem daysBeforeMonth_over (year : Int) :
    daysBeforeMonth year 13 = daysBeforeMonth year 12 + 31 :=
  rfl

theorem daysBeforeMonth_le {month other : Nat} (h : month ≤ other) :
    daysBeforeMonth year month ≤ daysBeforeMonth year other := by
  induction h with
  | refl => exact Nat.le_refl _
  | step _ ih => exact Nat.le_add_right_of_le ih

end Calendar

namespace Date

open Calendar

variable {d d' : Date} {year : Int} {month day : Nat}

theorem of?_eq_none_iff : of? year month day = none ↔ ¬IsDay year month day := by
  rw [of?]
  split <;> simp_all

theorem isSome_of? (h : IsDay year month day) : ∃ d, of? year month day = some d :=
  ⟨_, dif_pos h⟩

/-! ### The number of a day -/

/-- The number of a day: the first of January of the year 1 is the first. -/
def dayNumber (d : Date) : Int :=
  daysBefore d.year + daysBeforeMonth d.year d.month + d.day

/-- A date that is made of its parts is numbered by them. -/
theorem dayNumber_of? (h : of? year month day = some d) :
    d.dayNumber = daysBefore year + daysBeforeMonth year month + day := by
  rw [of?] at h
  split at h
  · cases h
    rfl
  · cases h

/-- A day is numbered after those of the years before, and not after those of its own. -/
theorem dayNumber_bounds (d : Date) :
    daysBefore d.year < d.dayNumber ∧ d.dayNumber ≤ daysBefore (d.year + 1) := by
  obtain ⟨-, -, hone, hlast⟩ := d.valid
  have hmonth := d.valid.month_bounds
  have hover : daysBeforeMonth d.year (d.month + 1) ≤ daysBeforeMonth d.year 13 :=
    daysBeforeMonth_le (by omega)
  rw [daysBeforeMonth] at hover
  have hsucc := daysBefore_succ d.year
  unfold dayNumber
  omega

/-- The year of a day can be told from its number. -/
theorem year_eq_of_dayNumber (hlow : daysBefore year < d.dayNumber)
    (hhigh : d.dayNumber ≤ daysBefore (year + 1)) : d.year = year := by
  obtain ⟨hbefore, hafter⟩ := d.dayNumber_bounds
  rcases Int.lt_trichotomy d.year year with h | h | h
  · have hle : daysBefore (d.year + 1) ≤ daysBefore year := daysBefore_le h
    omega
  · exact h
  · have hle : daysBefore (year + 1) ≤ daysBefore d.year := daysBefore_le h
    omega

/-! ### One day ahead and one day back -/

/-- The first day of the calendar. -/
def first : Date := ⟨-9999, 1, 1, by decide⟩

/-- The last day of the calendar. -/
def last : Date := ⟨9999, 12, 31, by decide⟩

/-- No day is numbered after the last of the calendar. -/
theorem dayNumber_le_last (d : Date) : d.dayNumber ≤ last.dayNumber :=
  Int.le_trans d.dayNumber_bounds.2 (daysBefore_le (Int.add_le_add_right d.valid.2.1 1))

/-- No day is numbered before the first. -/
theorem first_le_dayNumber (d : Date) : first.dayNumber ≤ d.dayNumber := by
  have hle : daysBefore (-9999) ≤ daysBefore d.year := daysBefore_le d.valid.1
  have hfirst : first.dayNumber = daysBefore (-9999) + 1 := rfl
  have hbefore := d.dayNumber_bounds.1
  omega

/-- The day after the last of a month is the first of the next month, and after the last of a year
the first of the next year. -/
theorem next?_eq (d : Date) :
    d.next? =
      if d.day < daysIn d.year d.month then of? d.year d.month (d.day + 1)
      else if d.month < 12 then of? d.year (d.month + 1) 1
      else of? (d.year + 1) 1 1 := by
  obtain ⟨hlow, hhigh, hone, hlast⟩ := d.valid
  rw [next?]
  split
  · obtain ⟨d', hd'⟩ : ∃ d', of? d.year d.month (d.day + 1) = some d' :=
      isSome_of? ⟨hlow, hhigh, by omega, by omega⟩
    rw [hd']
    rfl
  · rename_i hday
    rw [of?_eq_none_iff.2 fun h ↦ hday h.2.2.2]
    split
    · obtain ⟨d', hd'⟩ : ∃ d', of? d.year (d.month + 1) 1 = some d' :=
        isSome_of? ⟨hlow, hhigh, Nat.le_refl 1, daysIn_pos_iff.2 (by omega)⟩
      rw [hd']
      rfl
    · rename_i hmonth
      rw [of?_eq_none_iff.2 fun h ↦ hmonth (Nat.lt_of_succ_le h.month_bounds.2)]
      rfl

/-- The following day has the next number. -/
theorem dayNumber_next? (h : d.next? = some d') : d'.dayNumber = d.dayNumber + 1 := by
  have hlast := d.valid.2.2.2
  have hmonth := d.valid.month_bounds
  have hd : d.dayNumber = daysBefore d.year + daysBeforeMonth d.year d.month + d.day := rfl
  rw [next?_eq] at h
  split at h
  · rw [dayNumber_of? h]
    omega
  · split at h
    · rw [dayNumber_of? h, daysBeforeMonth]
      omega
    · have hdecember : d.month = 12 := by omega
      rw [hdecember] at hd
      rw [hdecember, daysIn_december] at hlast ‹¬d.day < _›
      rw [dayNumber_of? h, daysBefore_succ, daysBeforeMonth_over, daysBeforeMonth_january]
      omega

/-- Only the last day of the calendar has no following day. -/
theorem dayNumber_eq_last (h : d.next? = none) : d.dayNumber = last.dayNumber := by
  obtain ⟨hlow, hhigh, hone, hlast⟩ := d.valid
  have hmonth := d.valid.month_bounds
  rw [next?_eq] at h
  split at h
  · rename_i hday
    exact absurd ⟨hlow, hhigh, Nat.succ_pos _, hday⟩ (of?_eq_none_iff.1 h)
  · split at h
    · rename_i hmonth
      have hnext : 1 ≤ daysIn d.year (d.month + 1) := daysIn_pos_iff.2 ⟨Nat.succ_pos _, hmonth⟩
      exact absurd ⟨hlow, hhigh, Nat.le_refl 1, hnext⟩ (of?_eq_none_iff.1 h)
    · have hdecember : d.month = 12 := by omega
      rw [hdecember, daysIn_december] at hlast ‹¬d.day < _›
      have hyear : d.year = 9999 := by
        have hjanuary : daysIn (d.year + 1) 1 = 31 := rfl
        have hover := of?_eq_none_iff.1 h
        rw [IsDay, hjanuary] at hover
        omega
      rw [dayNumber, hyear, hdecember, show d.day = 31 by omega]
      rfl

/-- The day before has the number before. -/
theorem dayNumber_prev? (h : d.prev? = some d') : d'.dayNumber + 1 = d.dayNumber := by
  have hone := d.valid.2.2.1
  have hmonth := d.valid.month_bounds
  have hd : d.dayNumber = daysBefore d.year + daysBeforeMonth d.year d.month + d.day := rfl
  rw [prev?] at h
  split at h
  · rw [dayNumber_of? h]
    omega
  · split at h
    · obtain ⟨month, hmonth⟩ : ∃ month, d.month = month + 1 := ⟨d.month - 1, by omega⟩
      rw [hmonth, daysBeforeMonth] at hd
      rw [dayNumber_of? h, hmonth, Nat.add_sub_cancel]
      omega
    · have hyear := daysBefore_succ (d.year - 1)
      rw [Int.sub_add_cancel, daysBeforeMonth_over] at hyear
      rw [show d.month = 1 by omega, daysBeforeMonth_january] at hd
      rw [dayNumber_of? h]
      omega

/-- Only the first day of the calendar has no day before. -/
theorem dayNumber_eq_first (h : d.prev? = none) : d.dayNumber = first.dayNumber := by
  obtain ⟨hlow, hhigh, hone, hlast⟩ := d.valid
  have hmonth := d.valid.month_bounds
  rw [prev?] at h
  split at h
  · exact absurd ⟨hlow, hhigh, by omega, by omega⟩ (of?_eq_none_iff.1 h)
  · split at h
    · have hdays : 1 ≤ daysIn d.year (d.month - 1) := daysIn_pos_iff.2 (by omega)
      exact absurd ⟨hlow, hhigh, hdays, Nat.le_refl _⟩ (of?_eq_none_iff.1 h)
    · have hyear : d.year = -9999 := by
        have hover := of?_eq_none_iff.1 h
        rw [IsDay, daysIn_december] at hover
        omega
      rw [dayNumber, hyear, show d.month = 1 by omega, show d.day = 1 by omega]
      rfl

/-! ### Many days -/

/-- **Going days ahead adds to the number**, up to the last day of the calendar. -/
theorem dayNumber_plusDays (d : Date) (n : Nat) :
    (d.plusDays n).dayNumber = min (d.dayNumber + n) last.dayNumber := by
  induction n generalizing d with
  | zero =>
    rw [plusDays, Int.natCast_zero, Int.add_zero, Int.min_eq_left d.dayNumber_le_last]
  | succ n ih =>
    rw [plusDays, ih]
    cases h : d.next? with
    | none =>
      have hlast := dayNumber_eq_last h
      rw [Option.getD_none]
      omega
    | some d' =>
      have hnext := dayNumber_next? h
      rw [Option.getD_some]
      omega

/-- **Going days back takes away from the number**, down to the first day of the calendar. -/
theorem dayNumber_minusDays (d : Date) (n : Nat) :
    (d.minusDays n).dayNumber = max (d.dayNumber - n) first.dayNumber := by
  induction n generalizing d with
  | zero =>
    rw [minusDays, Int.natCast_zero, Int.sub_zero, Int.max_eq_left d.first_le_dayNumber]
  | succ n ih =>
    rw [minusDays, ih]
    cases h : d.prev? with
    | none =>
      have hfirst := dayNumber_eq_first h
      rw [Option.getD_none]
      omega
    | some d' =>
      have hprev := dayNumber_prev? h
      rw [Option.getD_some]
      omega

end Date

end PitchDesk
