/-!
# Dates of the proleptic Gregorian calendar

A date carries the proof that its month has the day, so every value of the type is a
day of the calendar.  The years reach from 262143 before to 262142 after year zero.
Dates step to their neighbours without being turned into day numbers; the day number is
only needed to stamp a tombstone.
-/

set_option autoImplicit false

namespace Gazette

/-- Whether a year has a 29th of February. -/
def isLeap (year : Int) : Bool :=
  year % 4 == 0 && (year % 100 != 0 || year % 400 == 0)

/-- The number of days of a month, counted from one for January. -/
def daysIn (year : Int) (month : Nat) : Nat :=
  match month with
  | 2 => if isLeap year then 29 else 28
  | 4 | 6 | 9 | 11 => 30
  | _ => 31

/-- A day of the calendar. -/
structure Date where
  year : Int
  month : Nat
  day : Nat
  year_mem : -262143 ≤ year ∧ year ≤ 262142
  month_mem : 1 ≤ month ∧ month ≤ 12
  day_mem : 1 ≤ day ∧ day ≤ daysIn year month
  deriving DecidableEq

namespace Date

/-- The date with the given fields, if the calendar has it. -/
def of? (year : Int) (month day : Nat) : Option Date :=
  if h : (-262143 ≤ year ∧ year ≤ 262142) ∧ (1 ≤ month ∧ month ≤ 12) ∧
      (1 ≤ day ∧ day ≤ daysIn year month) then
    some ⟨year, month, day, h.1, h.2.1, h.2.2⟩
  else none

/-- The fields of a date give that date back. -/
theorem of?_fields (d : Date) : of? d.year d.month d.day = some d := by
  simp [of?, d.year_mem, d.month_mem, d.day_mem]

/-- The day after, unless it lies past the last year. -/
def next? (d : Date) : Option Date :=
  if d.day < daysIn d.year d.month then of? d.year d.month (d.day + 1)
  else if d.month < 12 then of? d.year (d.month + 1) 1
  else of? (d.year + 1) 1 1

/-- The day before, unless it lies ahead of the first year. -/
def previous? (d : Date) : Option Date :=
  if 1 < d.day then of? d.year d.month (d.day - 1)
  else if 1 < d.month then of? d.year (d.month - 1) (daysIn d.year (d.month - 1))
  else of? (d.year - 1) 12 31

/-- The number of days between 1 January 1970 and a date. -/
def dayNumber (d : Date) : Int :=
  let past := d.year - 1
  let monthDays :=
    (List.range (d.month - 1)).foldl (fun total m => total + daysIn d.year (m + 1)) 0
  365 * past + past / 4 - past / 100 + past / 400 + (monthDays + d.day : Nat) - 719163

end Date

end Gazette
