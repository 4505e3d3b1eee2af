import RecordQuery.Text.Digit

/-!
# Calendar dates

Dates of the Gregorian calendar in the years 1 to 9999. `Date.ordinal` counts the days from the
first of them, and `Date.next?` and `Date.prev?` step by a day and stop at the ends of the calendar.
-/

namespace RecordQuery.Time

open Text

/-- A year with a 29th of February. -/
def IsLeap (year : Nat) : Prop := year % 4 = 0 ∧ (year % 100 ≠ 0 ∨ year % 400 = 0)

instance (year : Nat) : Decidable (IsLeap year) := inferInstanceAs (Decidable (_ ∧ _))

/-- The number of days of a month. -/
def daysInMonth (year month : Nat) : Nat :=
  if month = 2 then if IsLeap year then 29 else 28
  else if month = 4 ∨ month = 6 ∨ month = 9 ∨ month = 11 then 30
  else 31

/-- The number of days of a year. -/
def daysInYear (year : Nat) : Nat := if IsLeap year then 366 else 365

/-- The greatest year. -/
def maxYear : Nat := 9999

/-- The numbers of a year, a month and a day that exist. -/
def IsDate (year month day : Nat) : Prop :=
  (1 ≤ year ∧ year ≤ maxYear) ∧ (1 ≤ month ∧ month ≤ 12) ∧ (1 ≤ day ∧ day ≤ daysInMonth year month)

instance (year month day : Nat) : Decidable (IsDate year month day) :=
  inferInstanceAs (Decidable (_ ∧ _ ∧ _))

/-- A date. -/
structure Date where
  /-- The year, from 1. -/
  year : Nat
  /-- The month, from 1. -/
  month : Nat
  /-- The day of the month, from 1. -/
  day : Nat
  /-- The date exists. -/
  exists_date : IsDate year month day
  deriving DecidableEq

namespace Date

/-- The date of a year, a month and a day, if it exists. -/
def of? (year month day : Nat) : Option Date :=
  if h : IsDate year month day then some ⟨year, month, day, h⟩ else none

/-- The number of days before a year. -/
def daysBeforeYear (year : Nat) : Nat :=
  let y := year - 1
  y * 365 + y / 4 - y / 100 + y / 400

/-- The number of days of a year before a month. -/
def daysBeforeMonth (year month : Nat) : Nat :=
  (List.range (month - 1)).foldl (fun days m => days + daysInMonth year (m + 1)) 0

/-- The number of the day in the calendar, from 1. -/
def ordinal (d : Date) : Nat :=
  daysBeforeYear d.year + daysBeforeMonth d.year d.month + d.day

/-- The day after, unless the calendar ends. -/
def next? (d : Date) : Option Date :=
  if d.day < daysInMonth d.year d.month then of? d.year d.month (d.day + 1)
  else if d.month < 12 then of? d.year (d.month + 1) 1
  else of? (d.year + 1) 1 1

/-- The day before, unless the calendar begins. -/
def prev? (d : Date) : Option Date :=
  if 1 < d.day then of? d.year d.month (d.day - 1)
  else if 1 < d.month then of? d.year (d.month - 1) (daysInMonth d.year (d.month - 1))
  else of? (d.year - 1) 12 31

/-- The day of the week of the first of January, Monday being 0. -/
def firstWeekday (year : Nat) : Nat := daysBeforeYear year % 7

/-- The date of a day of the year, counted from 0 at the first of the given month. -/
def ofDayAfter? (year : Nat) : Nat → Nat → Nat → Option Date
  | 0, _, _ => none
  | months + 1, month, k =>
    if k < daysInMonth year month then of? year month (k + 1)
    else ofDayAfter? year months (month + 1) (k - daysInMonth year month)

/-- The date of a day counted from 0 at the first of January; a day before it lies in the year
before, and a day beyond the year in the year after. -/
def ofDayOfYear? (year : Nat) (k : Int) : Option Date :=
  if k < 0 then ofDayAfter? (year - 1) 12 1 (k + daysInYear (year - 1)).toNat
  else if k < daysInYear year then ofDayAfter? year 12 1 k.toNat
  else ofDayAfter? (year + 1) 12 1 (k.toNat - daysInYear year)

/-- The week exists in the year: weeks belong to the year of their Thursday. -/
def HasWeek (year week : Nat) : Prop :=
  1 ≤ week ∧ (week ≤ 52 ∨
    week = 53 ∧ (firstWeekday year = 3 ∨ firstWeekday year = 2 ∧ IsLeap year))

instance (year week : Nat) : Decidable (HasWeek year week) :=
  inferInstanceAs (Decidable (_ ∧ (_ ∨ _)))

/-- The date of a day of a week, Monday being 1. -/
def ofWeek? (year week day : Nat) : Option Date :=
  if (1 ≤ year ∧ year ≤ maxYear) ∧ HasWeek year week ∧ (1 ≤ day ∧ day ≤ 7) then
    let first : Int := firstWeekday year
    let monday : Int := if 3 < first then 7 - first else -first
    ofDayOfYear? year (monday + (week - 1 : Nat) * 7 + (day - 1 : Nat))
  else none

/-- The date as year, month and day with hyphens. -/
def text (d : Date) : List Char :=
  paddedText 4 d.year ++ '-' :: paddedText 2 d.month ++ '-' :: paddedText 2 d.day

end Date

end RecordQuery.Time
