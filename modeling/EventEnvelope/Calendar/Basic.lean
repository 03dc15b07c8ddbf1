/-
  EventEnvelope.Calendar.Basic
  ────────────────────────────
  **Dates, times of day and date-times.**

  The calendar is the Gregorian one, extended to all years; a `Date` lies in the years 1 to 9999.
  Range conditions are fields of the types, so a value that exists is a real date or time.

    • `Date`, `TimeOfDay`, `UtcOffset`, `DateTime`,
    • `daysBefore`, `civilOfDays`  — days since 1970-01-01 and back, for every year,
    • `Date.ofIsoWeek?`            — the date of a weekday in an ISO week.
-/
import EventEnvelope.Text.Numeral

namespace EventEnvelope

/-! ## §1. The calendar. -/

def isLeapYear (year : Int) : Bool := year % 4 == 0 && (year % 100 != 0 || year % 400 == 0)

def daysInMonth (year : Int) (month : Nat) : Nat :=
  if month = 2 then (if isLeapYear year then 29 else 28)
  else if month = 4 ∨ month = 6 ∨ month = 9 ∨ month = 11 then 30
  else 31

/-- Days of the months before `month`. -/
def daysBeforeMonth (year : Int) : (month : Nat) → Nat
  | 0 => 0
  | 1 => 0
  | month + 2 => daysBeforeMonth year (month + 1) + daysInMonth year (month + 1)

/-- Days from 1970-01-01 to a date, negative before it. -/
def daysBefore (year : Int) (month day : Nat) : Int :=
  let past := year - 1
  past * 365 + past / 4 - past / 100 + past / 400 + daysBeforeMonth year month + day - 719163

/-- The year, month and day of the date that many days after 1970-01-01.  Years are counted from
March here, in eras of 400 years that are all equally long. -/
def civilOfDays (days : Int) : Int × Nat × Nat :=
  let z := days + 719468
  let era := z / 146097
  let dayOfEra := z % 146097
  let yearOfEra := (dayOfEra - dayOfEra / 1460 + dayOfEra / 36524 - dayOfEra / 146096) / 365
  let dayOfYear := dayOfEra - (365 * yearOfEra + yearOfEra / 4 - yearOfEra / 100)
  let shifted := (5 * dayOfYear + 2) / 153
  let day := dayOfYear - (153 * shifted + 2) / 5 + 1
  let month := if shifted < 10 then shifted + 3 else shifted - 9
  (yearOfEra + era * 400 + (if month ≤ 2 then 1 else 0), month.toNat, day.toNat)

/-- The weekday of a day counted from 1970-01-01; Monday is zero. -/
def weekday (days : Int) : Int := (days + 3) % 7

/-! ## §2. Dates. -/

/-- A date in the years 1 to 9999. -/
structure Date where
  year : Nat
  month : Nat
  day : Nat
  inRange : (1 ≤ year ∧ year ≤ 9999) ∧ (1 ≤ month ∧ month ≤ 12) ∧ 1 ≤ day
    ∧ day ≤ daysInMonth year month
deriving DecidableEq

namespace Date

/-- The date with these fields, if there is one. -/
def of? (year month day : Nat) : Option Date :=
  if h : (1 ≤ year ∧ year ≤ 9999) ∧ (1 ≤ month ∧ month ≤ 12) ∧ 1 ≤ day
      ∧ day ≤ daysInMonth year month then
    some ⟨year, month, day, h⟩
  else none

/-- Days from 1970-01-01. -/
def days (d : Date) : Int := daysBefore d.year d.month d.day

/-- The date that many days after 1970-01-01, if its year has one. -/
def ofDays? (days : Int) : Option Date :=
  let (year, month, day) := civilOfDays days
  if 0 ≤ year then of? year.toNat month day else none

/-- The Monday of the first ISO week of a year: the week that holds the first Thursday. -/
def firstIsoMonday (year : Nat) : Int :=
  let first := daysBefore year 1 1
  let monday := first - weekday first
  if 3 < weekday first then monday + 7 else monday

/-- An ISO year has 53 weeks when it begins on a Thursday, or on a Wednesday of a leap year. -/
def isLongIsoYear (year : Nat) : Bool :=
  let first := weekday (daysBefore year 1 1)
  first == 3 || (first == 2 && isLeapYear year)

/-- The date of a weekday (Monday is one) of an ISO week. -/
def ofIsoWeek? (year week day : Nat) : Option Date :=
  if (1 ≤ year ∧ year ≤ 9999) ∧ 1 ≤ week ∧ (week ≤ 52 ∨ (week = 53 ∧ isLongIsoYear year))
      ∧ 1 ≤ day ∧ day ≤ 7 then
    ofDays? (firstIsoMonday year + (week - 1) * 7 + (day - 1))
  else none

end Date

/-! ## §3. Times of day. -/

/-- Microseconds of a day. -/
def microsecondsPerDay : Int := 86400000000

/-- A fixed distance from universal time, less than a day. -/
structure UtcOffset where
  microseconds : Int
  inRange : -microsecondsPerDay < microseconds ∧ microseconds < microsecondsPerDay
deriving DecidableEq

namespace UtcOffset

def utc : UtcOffset := ⟨0, by decide⟩

def ofMicroseconds? (n : Int) : Option UtcOffset :=
  if h : -microsecondsPerDay < n ∧ n < microsecondsPerDay then some ⟨n, h⟩ else none

end UtcOffset

/-- A time of day, with or without an offset from universal time. -/
structure TimeOfDay where
  hour : Nat
  minute : Nat
  second : Nat
  microsecond : Nat
  offset : Option UtcOffset
  inRange : hour < 24 ∧ minute < 60 ∧ second < 60 ∧ microsecond < 1000000
deriving DecidableEq

namespace TimeOfDay

/-- The time of day with these fields, if there is one. -/
def of? (hour minute second microsecond : Nat) (offset : Option UtcOffset) : Option TimeOfDay :=
  if h : hour < 24 ∧ minute < 60 ∧ second < 60 ∧ microsecond < 1000000 then
    some ⟨hour, minute, second, microsecond, offset, h⟩
  else none

def midnight : TimeOfDay := ⟨0, 0, 0, 0, none, by decide⟩

/-- Microseconds since midnight. -/
def microseconds (t : TimeOfDay) : Nat :=
  ((t.hour * 60 + t.minute) * 60 + t.second) * 1000000 + t.microsecond

/-- The time of day that many microseconds after midnight. -/
def ofMicroseconds (n : Nat) (offset : Option UtcOffset) : TimeOfDay :=
  ⟨n / 3600000000 % 24, n / 60000000 % 60, n / 1000000 % 60, n % 1000000, offset, by omega⟩

end TimeOfDay

/-! ## §4. Date-times. -/

/-- A date and a time of day. -/
structure DateTime where
  date : Date
  time : TimeOfDay
deriving DecidableEq

namespace DateTime

/-- The offset; one that is missing counts as universal time. -/
def offsetMicroseconds (t : DateTime) : Int := (t.time.offset.map (·.microseconds)).getD 0

/-- Microseconds from the epoch, 1970-01-01 in universal time. -/
def epochMicroseconds (t : DateTime) : Int :=
  t.date.days * microsecondsPerDay + t.time.microseconds - t.offsetMicroseconds

end DateTime

end EventEnvelope
