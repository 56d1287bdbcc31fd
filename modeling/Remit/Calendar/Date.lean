import Remit.Text.Numeral

/-!
# Dates

The proleptic Gregorian calendar of the years 1 to 9999. A `Date` carries the proof that its day
exists. `Date.rollOver?` counts days on from the first of a month and lets them run into later
months, so the 31st of February is a day in March.
-/

namespace Remit

open Text

/-- A leap year: every fourth year, but of the full centuries only every fourth. -/
def isLeapYear (year : Nat) : Bool :=
  year % 4 == 0 && (year % 100 != 0 || year % 400 == 0)

/-- The number of days of a month. -/
def daysInMonth (year month : Nat) : Nat :=
  match month with
  | 2 => if isLeapYear year then 29 else 28
  | 4 | 6 | 9 | 11 => 30
  | _ => 31

theorem daysInMonth_pos (year month : Nat) : 0 < daysInMonth year month := by
  unfold daysInMonth
  split
  · split <;> decide
  all_goals decide

/-- Year, month and day name a day of the calendar. -/
def IsDate (year month day : Nat) : Prop :=
  1 ≤ year ∧ year ≤ 9999 ∧ 1 ≤ month ∧ month ≤ 12 ∧ 1 ≤ day ∧ day ≤ daysInMonth year month

instance (year month day : Nat) : Decidable (IsDate year month day) := by
  unfold IsDate; infer_instance

/-- A day of the calendar. -/
structure Date where
  year : Nat
  month : Nat
  day : Nat
  isDate : IsDate year month day
  deriving DecidableEq

namespace Date

/-- The date with the given fields, if there is one. -/
def of? (year month day : Nat) : Option Date :=
  if h : IsDate year month day then some ⟨year, month, day, h⟩ else none

/-- Earlier in the calendar: by year, then by month, then by day. -/
def Before (a b : Date) : Prop :=
  a.year < b.year ∨ a.year = b.year ∧ (a.month < b.month ∨ a.month = b.month ∧ a.day < b.day)

instance (a b : Date) : Decidable (a.Before b) := by
  unfold Before; infer_instance

/-- The month after a month, with its year. -/
def nextMonth (year month : Nat) : Nat × Nat :=
  if month = 12 then (year + 1, 1) else (year, month + 1)

/-- The day that is reached by counting `day` days from the first of a month, the first being
counted as 1. Days beyond the month's end fall into the months after it; there is none beyond
the year 9999. -/
def rollOver? (year month day : Nat) : Option Date :=
  if h : IsDate year month day then some ⟨year, month, day, h⟩
  else if year ≤ 9999 ∧ daysInMonth year month < day then
    rollOver? (nextMonth year month).1 (nextMonth year month).2 (day - daysInMonth year month)
  else none
termination_by day
decreasing_by
  have := daysInMonth_pos year month
  omega

/-- The last day of the month before a month. -/
def dayBefore? (year month : Nat) : Option Date :=
  if month = 1 then of? (year - 1) 12 31 else of? year (month - 1) (daysInMonth year (month - 1))

/-- The day with number `day` in a month, where the day before the first has number 0 and numbers
beyond the month's end run on into later months. -/
def dayOfMonth? (year month day : Nat) : Option Date :=
  if day = 0 then dayBefore? year month else rollOver? year month day

/-- A date as year, month and day in four, two and two digits, with hyphens between. -/
def text (d : Date) : Text :=
  zeroPadded 4 (natText d.year) ++ '-' :: zeroPadded 2 (natText d.month)
    ++ '-' :: zeroPadded 2 (natText d.day)

end Date
end Remit
