import Remit.Calendar.Date
import Remit.Text.Quoted

/-!
# Scheduled dates

An instruction may name the date on which it is to be carried out. This module says which texts
have the form of a date (`isDateText`), which day such a text names (`executionDate`), and whether
that day is still to come (`isFuture`).

The form does not ask whether the month has the day: days past the end of a month are counted on
into the next one. The year 0000 has the form of a year but is before all dates.

A text that lacks the form may name a day all the same, since its parts are read as whole numbers of
any length. Years, months and days are then held to the widths of the words that they are kept in
before they are held to the calendar, and each bound has an error of its own.
-/

namespace Remit

open Text

/-- A text of the form `YYYY-MM-DD`, with a month from 1 to 12 and a day from 1 to 31. -/
def isDateText (t : Text) : Bool :=
  match t.splitOn '-' with
  | [year, month, day] =>
    year.length == 4 && month.length == 2 && day.length == 2
      && year.all Char.isDigit && month.all Char.isDigit && day.all Char.isDigit
      && 1 ≤ decimalValue month && decimalValue month ≤ 12
      && 1 ≤ decimalValue day && decimalValue day ≤ 31
  | _ => false

/-- What can be wrong with a text that is to name a date. -/
inductive ScheduleError where
  /-- Fewer than three parts between hyphens. -/
  | tooFewParts (found : Nat)
  /-- More than three parts between hyphens. -/
  | tooManyParts
  /-- A part that is no whole number. -/
  | notANumber (part : Text)
  /-- A part with more digits than a number is read from. -/
  | tooManyDigits (found : Nat)
  /-- A year or a month that takes more than a word of 64 bits. -/
  | beyondLongWord
  /-- A year or a month that takes more than a word of 32 bits. -/
  | beyondWord
  /-- A year after 9999. -/
  | yearOutOfRange (year : Int)
  /-- A month that is not one of the twelve. -/
  | monthOutOfRange
  /-- A distance from the first of the month that takes more than a word of 32 bits. -/
  | daysBeyondWord
  /-- More days after the first of the month than a distance may have. -/
  | tooManyDays (days : Int)
  /-- A day before the first date or after the last. -/
  | dateOutOfRange
  deriving DecidableEq

/-- The message of a schedule error. A part that is no number is shown in quotes, cut to two
hundred characters. -/
def ScheduleError.message : ScheduleError → String
  | tooFewParts found =>
    "not enough values to unpack (expected 3, got " ++ String.ofList (natText found) ++ ")"
  | tooManyParts => "too many values to unpack (expected 3)"
  | notANumber part =>
    "invalid literal for int() with base 10: " ++ String.ofList ((quoted part).take 200)
  | tooManyDigits found =>
    "Exceeds the limit (4300 digits) for integer string conversion: value has "
      ++ String.ofList (natText found)
      ++ " digits; use sys.set_int_max_str_digits() to increase the limit"
  | beyondLongWord => "Python int too large to convert to C long"
  | beyondWord => "signed integer is greater than maximum"
  | yearOutOfRange year => "year " ++ String.ofList (integerText year) ++ " is out of range"
  | monthOutOfRange => "month must be in 1..12"
  | daysBeyondWord => "Python int too large to convert to C int"
  | tooManyDays days =>
    "days=" ++ String.ofList (integerText days) ++ "; must have magnitude <= 999999999"
  | dateOutOfRange => "date value out of range"

/-! ## The day that a text names -/

/-- One part of a date as a number. Digits of any script count. -/
def readPart (part : Text) : Except ScheduleError Int :=
  match wholeInteger (part.map plainDigit) with
  | .ok n => .ok n
  | .error .malformed => .error (.notANumber part)
  | .error (.tooManyDigits found) => .error (.tooManyDigits found)

/-- The three numbers of a date. The parts are read one by one up to the fourth, so a part that is
no number is reported before a wrong count is. -/
def dateParts (t : Text) : Except ScheduleError (Int × Int × Int) := do
  match ← ((t.splitOn '-').take 4).mapM readPart with
  | [year, month, day] => .ok (year, month, day)
  | _ :: _ :: _ :: _ => .error .tooManyParts
  | parts => .error (.tooFewParts parts.length)

/-- The largest number in a signed word of 32 bits. -/
def wordMax : Int := 0x7fffffff

/-- The largest number in a signed word of 64 bits. -/
def longWordMax : Int := 0x7fffffffffffffff

/-- A year or a month, if a word holds it. -/
def inWord (n : Int) : Except ScheduleError Int :=
  if longWordMax < n then .error .beyondLongWord
  else if wordMax < n then .error .beyondWord
  else .ok n

/-- The most days that two dates may be apart. -/
def daysMax : Int := 999999999

/-- A day of the month, if its distance from the first of the month is within the bounds. -/
def inDistance (day : Int) : Except ScheduleError Int :=
  if wordMax < day - 1 then .error .daysBeyondWord
  else if daysMax < day - 1 then .error (.tooManyDays (day - 1))
  else .ok day

/-- The day on which an instruction is to be carried out. Years before 1 name no day: they lie
before all dates. -/
def executionDate (t : Text) : Except ScheduleError (Option Date) := do
  let (year, month, day) ← dateParts t
  if year < 1 then .ok none
  else
    let year ← inWord year
    let month ← inWord month
    if 9999 < year then .error (.yearOutOfRange year)
    else if month < 1 ∨ 12 < month then .error .monthOutOfRange
    else
      let day ← inDistance day
      match Date.dayOfMonth? year.toNat month.toNat day.toNat with
      | some date => .ok (some date)
      | none => .error .dateOutOfRange

/-- Whether the named day is after today. No date, or an empty one, is never in the future. -/
def isFuture (executeBy : Option Text) (today : Date) : Except ScheduleError Bool :=
  match executeBy with
  | none | some [] => .ok false
  | some t => do
    match ← executionDate t with
    | none => .ok false
    | some date => .ok (today.Before date)

end Remit
