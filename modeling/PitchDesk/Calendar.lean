import PitchDesk.Text.Decimal

/-!
# Calendar dates

Days of the proleptic Gregorian calendar in the years -9999 to 9999, with a year 0. A `Date` holds
the proof that its day exists. Dates are written `YYYY-MM-DD`, with a minus sign before negative
years, and `Date.read?` accepts that form with an optional sign.

The following day and the day before are told by the parts of a date, and going many days is going
one at a time. Going stops at the ends of the calendar. Whether the day of a month exists is asked
in one place, `Calendar.IsDay`, and reading, counting and making of dates all go through it, so
there is no date without its proof.
-/

namespace PitchDesk

namespace Calendar

/-- Every fourth year is a leap year, but of the full centuries only every fourth. -/
def isLeap (year : Int) : Bool :=
  year % 4 == 0 && (year % 100 != 0 || year % 400 == 0)

/-- The number of days of a month, zero for a number that is no month. -/
def daysIn (year : Int) (month : Nat) : Nat :=
  match month with
  | 1 | 3 | 5 | 7 | 8 | 10 | 12 => 31
  | 4 | 6 | 9 | 11 => 30
  | 2 => if isLeap year then 29 else 28
  | _ => 0

/-- There is such a day in the calendar. -/
def IsDay (year : Int) (month day : Nat) : Prop :=
  -9999 ≤ year ∧ year ≤ 9999 ∧ 1 ≤ day ∧ day ≤ daysIn year month

instance (year : Int) (month day : Nat) : Decidable (IsDay year month day) :=
  inferInstanceAs (Decidable (_ ∧ _ ∧ _ ∧ _))

end Calendar

/-- A day of the calendar. -/
structure Date where
  year : Int
  month : Nat
  day : Nat
  valid : Calendar.IsDay year month day
  deriving DecidableEq, Repr

namespace Date

open Calendar

/-- The date with the given parts, if there is such a day. -/
def of? (year : Int) (month day : Nat) : Option Date :=
  if h : IsDay year month day then some ⟨year, month, day, h⟩ else none

/-- A date as `YYYY-MM-DD`. -/
def toText (d : Date) : String :=
  (if d.year < 0 then "-" else "") ++ Text.padded 4 d.year.natAbs ++ "-" ++
    Text.padded 2 d.month ++ "-" ++ Text.padded 2 d.day

/-- Reads four digits, `-`, two digits, `-` and two digits. -/
def readUnsigned? (sign : Int) (cs : List Char) : Option Date :=
  match cs with
  | [y₁, y₂, y₃, y₄, '-', m₁, m₂, '-', d₁, d₂] => do
    let year ← Text.digitsValue? 0 [y₁, y₂, y₃, y₄]
    let month ← Text.digitsValue? 0 [m₁, m₂]
    let day ← Text.digitsValue? 0 [d₁, d₂]
    of? (sign * year) month day
  | _ => none

/-- Reads a date, with an optional sign before the year. -/
def read? (s : String) : Option Date :=
  match s.toList with
  | '-' :: cs => readUnsigned? (-1) cs
  | '+' :: cs => readUnsigned? 1 cs
  | cs => readUnsigned? 1 cs

/-- The following day, if it is not after the last one. -/
def next? (d : Date) : Option Date :=
  of? d.year d.month (d.day + 1) <|> of? d.year (d.month + 1) 1 <|> of? (d.year + 1) 1 1

/-- The day before, if it is not before the first one. -/
def prev? (d : Date) : Option Date :=
  if 1 < d.day then of? d.year d.month (d.day - 1)
  else if 1 < d.month then of? d.year (d.month - 1) (daysIn d.year (d.month - 1))
  else of? (d.year - 1) 12 31

/-- The day that many days later; the last day of the calendar if there is none. -/
def plusDays (d : Date) : Nat → Date
  | 0 => d
  | n + 1 => ((d.next?).getD d).plusDays n

/-- The day that many days earlier; the first day of the calendar if there is none. -/
def minusDays (d : Date) : Nat → Date
  | 0 => d
  | n + 1 => ((d.prev?).getD d).minusDays n

end Date

end PitchDesk
