import Gazette.Time.Date

/-!
# Instants

An instant is a date with a time of day in universal time, exact to the nanosecond.  A
leap second is the sixtieth second of its minute.  Instants are written in the form of
RFC 3339 with as few of 0, 3, 6 or 9 fraction digits as are exact, and end in a zone
mark: `Z` in messages and payloads, `+00:00` in stored rows.
-/

set_option autoImplicit false

namespace Gazette

/-- A time of day.  Second 60 is a leap second. -/
structure TimeOfDay where
  hour : Nat
  minute : Nat
  second : Nat
  nano : Nat
  hour_lt : hour < 24
  minute_lt : minute < 60
  second_le : second ≤ 60
  nano_lt : nano < 1000000000
  deriving DecidableEq

/-- The time of day with the given fields, if a day has it. -/
def TimeOfDay.of? (hour minute second nano : Nat) : Option TimeOfDay :=
  if h : hour < 24 ∧ minute < 60 ∧ second ≤ 60 ∧ nano < 1000000000 then
    some ⟨hour, minute, second, nano, h.1, h.2.1, h.2.2.1, h.2.2.2⟩
  else none

/-- The fields of a time of day give it back. -/
theorem TimeOfDay.of?_fields (t : TimeOfDay) :
    of? t.hour t.minute t.second t.nano = some t := by
  simp [of?, t.hour_lt, t.minute_lt, t.second_le, t.nano_lt]

/-- A moment in universal time. -/
structure Instant where
  date : Date
  time : TimeOfDay
  deriving DecidableEq

namespace Instant

/-- The last `width` decimal digits of a number, with leading zeros. -/
def padded : Nat → Nat → List Char
  | 0, _ => []
  | width + 1, n => padded width (n / 10) ++ [Nat.digitChar (n % 10)]

/-- The year: four digits where they suffice, and otherwise a sign before at least four. -/
def yearText (year : Int) : List Char :=
  if 0 ≤ year ∧ year ≤ 9999 then padded 4 year.toNat
  else
    let digits := Nat.toDigits 10 year.natAbs
    (if year < 0 then '-' else '+') :: (List.replicate (4 - digits.length) '0' ++ digits)

/-- The fraction of a second, with the fewest of 0, 3, 6 or 9 digits that are exact. -/
def fractionText (nano : Nat) : List Char :=
  if nano = 0 then []
  else if nano % 1000000 = 0 then '.' :: padded 3 (nano / 1000000)
  else if nano % 1000 = 0 then '.' :: padded 6 (nano / 1000)
  else '.' :: padded 9 nano

/-- The date and time of an instant, without a zone mark. -/
def fieldsText (i : Instant) : List Char :=
  yearText i.date.year ++ '-' :: padded 2 i.date.month ++ '-' :: padded 2 i.date.day ++
    'T' :: padded 2 i.time.hour ++ ':' :: padded 2 i.time.minute ++ ':' ::
    padded 2 i.time.second ++ fractionText i.time.nano

/-- The form used in messages and payloads. -/
def text (i : Instant) : String :=
  String.ofList (i.fieldsText ++ ['Z'])

/-- The form used in stored rows. -/
def stored (i : Instant) : String :=
  String.ofList (i.fieldsText ++ ['+', '0', '0', ':', '0', '0'])

/-- Whole seconds since 1 January 1970.  A leap second counts as the second before it. -/
def unix (i : Instant) : Int :=
  i.date.dayNumber * 86400 +
    (i.time.hour * 3600 + i.time.minute * 60 + min i.time.second 59 : Nat)

/-- The instant whose local clock, `offset` minutes ahead of universal time, shows the given
date and time.  There is none if it leaves the range of years. -/
def ofLocal? (date : Date) (time : TimeOfDay) (offset : Int) : Option Instant :=
  let minutes := (time.hour * 60 + time.minute : Nat) - offset
  let day? :=
    if minutes < 0 then date.previous?
    else if 1440 ≤ minutes then date.next?
    else some date
  let within := (minutes % 1440).toNat
  match day?, TimeOfDay.of? (within / 60) (within % 60) time.second time.nano with
  | some day, some shifted => some ⟨day, shifted⟩
  | _, _ => none

end Instant

end Gazette
